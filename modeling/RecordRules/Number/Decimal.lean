import RecordRules.Number.Binary64
import RecordRules.Number.Digits
import RecordRules.Number.Power
import RecordRules.Text.Blank
import RecordRules.Text.Split

/-!
# Decimal numbers

Exact decimals with a significand of 96 bits and at most 28 places.  They are read from plain or
scientific notation, compared by value, and turned into binary numbers.
-/

namespace RecordRules.Number

/-- A decimal: a sign and a significand, divided by ten to the number of places. -/
structure Decimal where
  negative : Bool
  significand : Nat
  places : Nat
  deriving DecidableEq, Repr, Inhabited

namespace Decimal

/-- Significands lie below this. -/
def bound : Nat := twos 96

/-- The greatest number of places. -/
def mostPlaces : Nat := 28

/-- A decimal with a sign, which zero does not keep. -/
def signed (negative : Bool) (significand places : Nat) : Decimal :=
  ⟨negative && significand != 0, significand, places⟩

/-- May the character stand where digits are left over? -/
def isFiller (c : Char) : Bool := c.isDigit || c == '_'

/-- The first digit at which to round: in a long numeral underscores before it are passed over. -/
def roundingDigit (wide : Bool) (rest : List Char) : Nat :=
  let rest := if wide then rest.dropWhile (· == '_') else rest
  match rest with
  | c :: _ => if c.isDigit then digitValue c else 0
  | [] => 0

/-- Rounds before digits that have no room, a half going up.  A significand that grows out of its
bits gives up a place. -/
def roundAt (negative wide : Bool) (significand places : Nat) (rest : List Char) :
    Option Decimal :=
  if !rest.all isFiller then none
  else
    let up := if 5 ≤ roundingDigit wide rest then 1 else 0
    let rounded := significand + up
    if rounded < bound then some (signed negative rounded places)
    else if places = 0 then none
    else some (signed negative ((rounded + 4) / 10) (places - 1))

/-- From this significand on a numeral is long: its next digit might not fit in 64 bits. -/
def wideFrom : Nat := (twos 64 - 1) / 10 - 255

/-- Where a numeral has been read to. -/
structure Partial where
  significand : Nat
  places : Nat
  seenPoint : Bool
  seenDigit : Bool
  wide : Bool

def readFrom (negative : Bool) (state : Partial) : List Char → Option Decimal
  | [] => if state.seenDigit then some (signed negative state.significand state.places) else none
  | c :: rest =>
    if mostPlaces ≤ state.places then
      roundAt negative state.wide state.significand state.places (c :: rest)
    else if c.isDigit then
      let next := 10 * state.significand + digitValue c
      if bound ≤ next then
        if state.seenPoint then
          roundAt negative state.wide state.significand state.places (c :: rest)
        else none
      else
        let places := if state.seenPoint then state.places + 1 else 0
        readFrom negative
          { state with
            significand := next
            places
            seenDigit := true
            wide := state.wide || decide (wideFrom ≤ next ∧ places < mostPlaces) } rest
    else if c = '.' ∧ !state.seenPoint then
      readFrom negative { state with seenPoint := true } rest
    else if c = '_' ∧ state.seenDigit then readFrom negative state rest
    else none

/-- Reads plain notation: a sign, digits, one point among them, and underscores behind a digit. -/
def readPlain? (cs : List Char) : Option Decimal :=
  match cs with
  | '-' :: rest => readFrom true ⟨0, 0, false, false, false⟩ rest
  | '+' :: rest => readFrom false ⟨0, 0, false, false, false⟩ rest
  | _ => readFrom false ⟨0, 0, false, false, false⟩ cs

def isExponentMark (c : Char) : Bool := c == 'e' || c == 'E'

/-- Gives up the last places, a half going up. -/
def dropPlaces (d : Decimal) (count : Nat) : Decimal :=
  let kept := d.significand / tens count
  let rest := d.significand % tens count
  let up := if tens count ≤ 2 * rest then 1 else 0
  { d with significand := kept + up, places := d.places - count }

/-- Moves the point to the left; places beyond the last one are given up. -/
def lower (d : Decimal) (count : Nat) : Option Decimal :=
  if mostPlaces < count then none
  else
    let fitting := d.dropPlaces (d.places + count - mostPlaces)
    some { fitting with places := fitting.places + count }

/-- Moves the point to the right; past the last place the significand grows. -/
def raise (d : Decimal) (count : Nat) : Option Decimal :=
  if count ≤ d.places then some { d with places := d.places - count }
  else if mostPlaces < count then none
  else
    let significand := d.significand * tens (count - d.places)
    if significand < bound then some { d with significand, places := 0 } else none

/-- Reads scientific notation: a plain numeral, a mark and a whole exponent. -/
def readScientific? (cs : List Char) : Option Decimal :=
  match cs.dropWhile fun c => !isExponentMark c with
  | [] => none
  | _ :: exponent => do
    let base ← readPlain? (cs.takeWhile fun c => !isExponentMark c)
    match exponent with
    | '-' :: rest => base.lower (← readBelow? (twos 32) (String.ofList rest))
    | _ => base.raise (← readBelow? (twos 32) (String.ofList exponent))

/-- The decimal a text denotes, blanks at its ends apart. -/
def read? (s : String) : Option Decimal :=
  let cs := Text.trimChars s.toList
  match readPlain? cs with
  | some d => some d
  | none => readScientific? cs

/-- The value as a whole number of units of the given finer place. -/
def scaledTo (d : Decimal) (places : Nat) : Int :=
  let magnitude : Int := d.significand * tens (places - d.places)
  if d.negative then -magnitude else magnitude

def compare (a b : Decimal) : Ordering :=
  let places := max a.places b.places
  Ord.compare (a.scaledTo places) (b.scaledTo places)

def text (d : Decimal) : String :=
  let sign := if d.negative then "-" else ""
  if d.places = 0 then sign ++ natText d.significand
  else
    sign ++ natText (d.significand / tens d.places) ++ "."
      ++ padded d.places (d.significand % tens d.places)

/-- Powers of a binary number by repeated squaring, each product rounded. -/
def binaryPower (square result : Binary64) (n : Nat) : Binary64 :=
  if n = 0 then result
  else
    let result := if n % 2 = 1 then result.mul square else result
    binaryPower (square.mul square) result (n / 2)
termination_by n
decreasing_by omega

/-- The binary number for a decimal.  Whole part and fraction are rounded on their own; their sum
is rounded once more to the places of the decimal. -/
def toBinary (d : Decimal) : Binary64 :=
  let magnitude :=
    if d.places = 0 then Binary64.ofNat d.significand
    else
      let unit := tens d.places
      let whole := Binary64.ofNat (d.significand / unit)
      let fraction := (Binary64.ofNat (d.significand % unit)).div (Binary64.ofNat unit)
      if fraction.isZero then whole
      else
        let power := binaryPower (Binary64.ofNat 10) (Binary64.ofNat 1) d.places
        ((whole.addMagnitudes fraction).mul power).roundHalfUp.div power
  { magnitude with negative := d.negative }

end Decimal

end RecordRules.Number
