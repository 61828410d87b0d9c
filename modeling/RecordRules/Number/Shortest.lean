import RecordRules.Number.Binary64
import RecordRules.Number.Digits
import RecordRules.Number.Power

/-!
# Shortest decimal text of a binary number

A finite number is written with the fewest decimal digits that read back as it.  On the grid of
decimals with a given number of digits only the two neighbours of the exact value can be nearest,
so the first grid on which one of them lies in the interval that rounds to the number gives the
digits.
-/

namespace RecordRules.Number

/-- A positive decimal: `significand` times ten to the power `exponent`. -/
structure ScaledDecimal where
  significand : Nat
  exponent : Int
  deriving DecidableEq, Repr

/-- Ten to a possibly negative power, as a fraction. -/
def tenPower (e : Int) : Nat × Nat := (tens e.toNat, tens (-e).toNat)

namespace Binary64

/-- The decimal exponent of the leading digit of a quotient. -/
def leadingExponent (num den : Nat) : Int :=
  let guess : Int := (digits num).length - (digits den).length
  let (p, q) := tenPower guess
  if den * p ≤ num * q then guess else guess - 1

/-- Does a decimal round to the magnitude with the given code? -/
def readsBack (x : Binary64) (d : ScaledDecimal) : Bool :=
  let (p, q) := tenPower d.exponent
  codeOf (d.significand * p) q == x.code

/-- The decimal on the grid of `count` digits that reads back, the nearer one if two do. -/
def onGrid? (x : Binary64) (count : Nat) : Option ScaledDecimal :=
  let (num, den) := x.fraction
  let exponent := leadingExponent num den - (count : Int) + 1
  let (p, q) := tenPower exponent
  let below := num * q / (den * p)
  let lower : ScaledDecimal := ⟨below, exponent⟩
  let upper : ScaledDecimal := ⟨below + 1, exponent⟩
  let twiceRest := 2 * (num * q % (den * p))
  match readsBack x lower, readsBack x upper with
  | false, false => none
  | true, false => some lower
  | false, true => some upper
  | true, true =>
    if twiceRest < den * p then some lower
    else if den * p < twiceRest then some upper
    else if below % 2 = 0 then some lower else some upper

/-- The first of the grids from `count` digits on that holds a decimal that reads back. -/
def shortestFrom (x : Binary64) : Nat → Nat → ScaledDecimal
  | 0, count => (x.onGrid? count).getD ⟨0, 0⟩
  | more + 1, count =>
    match x.onGrid? count with
    | some d => d
    | none => shortestFrom x more (count + 1)

/-- The decimal with the fewest digits that reads back as a magnitude that is not zero. -/
def shortest (x : Binary64) : ScaledDecimal := shortestFrom x 16 1

end Binary64

/-- How a decimal with few digits is laid out as text. -/
structure DecimalLayout where
  /-- The least power of ten of a leading digit that is written positionally. -/
  positionalFrom : Int
  /-- The power of ten of a leading digit from which on an exponent is written. -/
  exponentFrom : Int

namespace DecimalLayout

def exponentText (e : Int) : List Char :=
  if e < 0 then '-' :: digits (-e).toNat else '+' :: digits e.toNat

/-- Writes digits whose first has the power `leading` of ten. -/
def write (layout : DecimalLayout) (ds : List Char) (leading : Int) : List Char :=
  if leading < layout.positionalFrom ∨ layout.exponentFrom ≤ leading then
    let mantissa := match ds with
      | [] => []
      | [d] => [d]
      | d :: rest => d :: '.' :: rest
    mantissa ++ 'e' :: exponentText leading
  else if leading < 0 then
    '0' :: '.' :: (List.replicate ((-leading).toNat - 1) '0' ++ ds)
  else
    let whole := leading.toNat + 1
    if ds.length ≤ whole then ds ++ List.replicate (whole - ds.length) '0' ++ ['.', '0']
    else ds.take whole ++ '.' :: ds.drop whole

end DecimalLayout

/-- Numbers from a hundred-thousandth up to ten to the sixteenth are written positionally. -/
def floatLayout : DecimalLayout := ⟨-5, 16⟩

/-- The text of a binary number: its shortest digits, with a point or an exponent always. -/
def floatText (x : Binary64) : String :=
  let sign := if x.negative then ['-'] else []
  if x.isZero then String.ofList (sign ++ ['0', '.', '0'])
  else
    let d := x.shortest
    let ds := digits d.significand
    let kept := (ds.reverse.dropWhile (· = '0')).reverse
    let leading : Int := d.exponent + ds.length - 1
    String.ofList (sign ++ floatLayout.write kept leading)

end RecordRules.Number
