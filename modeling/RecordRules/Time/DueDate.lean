import RecordRules.Number.Power
import RecordRules.Text.Ascii
import RecordRules.Text.Digit
import RecordRules.Time.Timestamp

/-!
# Due dates

A due date is an offset from now, a plus sign with a number and a unit, or a timestamp literal.
Anything else is no due date.
-/

namespace RecordRules.Time

/-- The units of a relative due date. -/
inductive Unit where
  | hours
  | days
  | weeks
  | months
  deriving DecidableEq, Repr

def Unit.ofLetter? (c : Char) : Option Unit :=
  match Text.asciiLowerChar c with
  | 'h' => some .hours
  | 'd' => some .days
  | 'w' => some .weeks
  | 'm' => some .months
  | _ => none

/-- The digits of the number and the unit of a relative expression, if it is one. -/
def relative? (cs : List Char) : Option (List Char × Unit) :=
  match cs with
  | '+' :: rest =>
    let rest := Text.trimStart rest
    let ds := rest.takeWhile Text.isUnicodeDigit
    match ds, Text.trimStart (rest.dropWhile Text.isUnicodeDigit) with
    | _ :: _, [letter] => (Unit.ofLetter? letter).map fun unit => (ds, unit)
    | _, _ => none
  | _ => none

/-- The greatest number of seconds of a duration. -/
def durationBound : Nat := (Number.twos 63 - 1) / 1000

/-- The instant so many units of so many seconds later. -/
def later (now : Instant) (amount unitSeconds : Nat) : Option Instant :=
  if amount * unitSeconds ≤ durationBound then now.addSeconds (amount * unitSeconds : Nat)
  else none

def Unit.advance (unit : Unit) (amount : Nat) (now : Instant) : Option Instant :=
  match unit with
  | .hours => later now amount 3600
  | .days => later now amount 86400
  | .weeks => later now amount 604800
  | .months => if amount < Number.twos 31 then now.addMonths amount else none

def dueDate (expression : String) (now : Instant) : Option Instant :=
  let expression := Text.trim expression
  match relative? expression.toList with
  | some (ds, unit) =>
    if ds.all Char.isDigit && decide (Number.readDigits 0 ds < Number.twos 63) then
      unit.advance (Number.readDigits 0 ds) now
    else none
  | none => readTimestamp expression

end RecordRules.Time
