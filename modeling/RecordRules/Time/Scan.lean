import RecordRules.Number.Digits
import RecordRules.Number.Power
import RecordRules.Text.Blank
import RecordRules.Text.Split
import RecordRules.Time.Instant

/-!
# Scanning dates and times

The pieces from which every accepted form of a timestamp is read: numbers of bounded width, marks
between them, fractions of a second and offsets.  What does not fit is reported by its cause.
-/

namespace RecordRules.Time

/-- Why a text is no timestamp. -/
inductive TimeFault where
  | outOfRange
  | impossible
  | invalid
  | tooShort
  | tooLong
  deriving DecidableEq, Repr

def TimeFault.message : TimeFault → String
  | .outOfRange => "input is out of range"
  | .impossible => "no possible date and time matching input"
  | .invalid => "input contains invalid characters"
  | .tooShort => "premature end of input"
  | .tooLong => "trailing input"

namespace Scan

def byteCount (cs : List Char) : Nat := cs.foldr (fun c count => c.utf8Size + count) 0

/-- The leading digits, at most so many, and what follows them. -/
def leadingDigits : Nat → List Char → List Char × List Char
  | 0, cs => ([], cs)
  | _, [] => ([], [])
  | most + 1, c :: rest =>
    if c.isDigit then
      let (ds, behind) := leadingDigits most rest
      (c :: ds, behind)
    else ([], c :: rest)

/-- Reads a number of at least `least` and at most `most` digits. -/
def number (least most : Nat) (cs : List Char) : Except TimeFault (Nat × List Char) :=
  if byteCount cs < least then .error .tooShort
  else
    let (ds, rest) := leadingDigits most cs
    if ds.length < least then .error .invalid
    else
      let n := Number.readDigits 0 ds
      if n < Number.twos 63 then .ok (n, rest) else .error .outOfRange

/-- Steps over a mark that must come next. -/
def mark (c : Char) : List Char → Except TimeFault (List Char)
  | [] => .error .tooShort
  | d :: rest => if d = c then .ok rest else .error .invalid

/-- Refuses a number above a bound or below one. -/
def bounded (low high n : Nat) : Except TimeFault Nat :=
  if low ≤ n ∧ n ≤ high then .ok n else .error .outOfRange

/-- Reads one or two digits behind blanks. -/
def looseNumber (low high : Nat) (cs : List Char) : Except TimeFault (Nat × List Char) := do
  let (n, rest) ← number 1 2 (Text.trimStart cs)
  return (← bounded low high n, rest)

/-- Reads exactly two digits. -/
def strictNumber (low high : Nat) (cs : List Char) : Except TimeFault (Nat × List Char) := do
  let (n, rest) ← number 2 2 cs
  return (← bounded low high n, rest)

/-- Reads a year behind blanks: up to four digits, or any number of them behind a sign. -/
def looseYear (cs : List Char) : Except TimeFault (Int × List Char) := do
  let (year, rest) ← match Text.trimStart cs with
    | '-' :: rest => do
      let (n, rest) ← number 1 rest.length rest
      pure (-(n : Int), rest)
    | '+' :: rest => do
      let (n, rest) ← number 1 rest.length rest
      pure ((n : Int), rest)
    | cs => do
      let (n, rest) ← number 1 4 cs
      pure ((n : Int), rest)
  if Number.isInt32 year then return (year, rest) else throw .outOfRange

/-- Reads a fraction of a second behind its point; digits after the ninth are dropped. -/
def fraction (cs : List Char) : Except TimeFault (Nat × List Char) := do
  let (n, rest) ← number 1 9 cs
  return (n * Number.tens (9 - (cs.length - rest.length)), rest.dropWhile Char.isDigit)

/-- Reads a fraction of a second, when a point begins one. -/
def optionalFraction : List Char → Except TimeFault (Nat × List Char)
  | '.' :: rest => fraction rest
  | cs => .ok (0, cs)

/-- Steps over the letter or space between date and time. -/
def separator : List Char → Except TimeFault (List Char)
  | [] => .error .tooShort
  | c :: rest => if c = 'T' ∨ c = 't' ∨ c = ' ' then .ok rest else .error .invalid

/-- Two digits of an offset, the first of which is at most the given one. -/
def offsetDigits (cs : List Char) : Except TimeFault (Nat × List Char) :=
  match cs with
  | a :: b :: rest =>
    if a.isDigit && b.isDigit then .ok (Number.readDigits 0 [a, b], rest) else .error .invalid
  | _ => if byteCount cs < 2 then .error .tooShort else .error .invalid

/-- Reads an offset in seconds: the letter for universal time, or hours and minutes. -/
def offset (colon : List Char → Except TimeFault (List Char)) (cs : List Char) :
    Except TimeFault (Int × List Char) := do
  let signed (negative : Bool) (rest : List Char) : Except TimeFault (Int × List Char) := do
    let (hours, rest) ← offsetDigits rest
    let rest ← colon rest
    let (minutes, rest) ← offsetDigits rest
    if 60 ≤ minutes then throw .outOfRange
    let seconds : Int := hours * 3600 + minutes * 60
    return (if negative then -seconds else seconds, rest)
  match cs with
  | [] => throw .tooShort
  | c :: rest =>
    if c = 'Z' ∨ c = 'z' then return (0, rest)
    else if c = '+' then signed false rest
    else if c = '-' ∨ c = '−' then signed true rest
    else throw .invalid

end Scan

/-- A date and a time of day as they were read. -/
structure Reading where
  date : Date
  hour : Nat
  minute : Nat
  second : Nat
  nanos : Nat
  deriving DecidableEq, Repr

/-- The instant of a reading at an offset from universal time.  The second 60 is a leap second. -/
def Reading.instant (reading : Reading) (offset : Int) : Except TimeFault Instant :=
  if ¬ reading.date.Valid then .error .outOfRange
  else if offset ≤ -86400 ∨ 86400 ≤ offset then .error .outOfRange
  else
    let (second, nanos) :=
      if reading.second = 60 then (59, reading.nanos + Instant.nanosPerSecond)
      else (reading.second, reading.nanos)
    let secondOfDay : Int := reading.hour * 3600 + reading.minute * 60 + second
    let instant := Instant.ofDate reading.date (secondOfDay - offset) nanos
    if instant.inRange then .ok instant else .error .impossible

end RecordRules.Time
