import RecordRules.Number.Power

/-!
# Finite binary floating point

Double-precision numbers as a sign and a magnitude code.  The code numbers the magnitudes in
increasing order, so that it is the bit pattern without the sign.  Arithmetic computes the exact
rational result in natural numbers and rounds it once, to the nearest code, ties to the even one.
-/

namespace RecordRules.Number

/-- A double-precision number: its sign and the place of its magnitude among all magnitudes. -/
structure Binary64 where
  negative : Bool
  code : Nat
  deriving DecidableEq, Repr, Inhabited

namespace Binary64

def binade : Nat := twos 52

/-- The code of infinity, which is also the number of finite magnitudes. -/
def infinityCode : Nat := 2047 * binade

def zero : Binary64 := ⟨false, 0⟩

def isFinite (x : Binary64) : Bool := decide (x.code < infinityCode)

def isZero (x : Binary64) : Bool := x.code == 0

/-- The whole number of units in the last place that makes up the magnitude. -/
def mantissa (x : Binary64) : Nat :=
  if x.code < binade then x.code else binade + x.code % binade

/-- The unit in the last place is two to this number less 1074. -/
def unitExponent (x : Binary64) : Nat := x.code / binade - 1

def fraction (x : Binary64) : Nat × Nat :=
  (x.mantissa * twos (x.unitExponent - 1074), twos (1074 - x.unitExponent))

/-- The quotient rounded to the nearest natural number, a tie to the even one. -/
def divideToEven (num den : Nat) : Nat :=
  let quotient := num / den
  let remainder := num % den
  if 2 * remainder < den then quotient
  else if den < 2 * remainder then quotient + 1
  else quotient + quotient % 2

/-- The unit exponent, 1074 added, in which a quotient has at most 53 binary digits. -/
def unitFor (num den : Nat) : Nat :=
  let guess := 1074 + Nat.log2 num - Nat.log2 den - 53
  let fits (unit : Nat) : Bool :=
    decide (num * twos (1074 - unit) < den * twos (unit - 1074) * twos 53)
  if fits guess then guess else guess + 1

/-- The code of the magnitude nearest to a quotient; infinity when it is too large. -/
def codeOf (num den : Nat) : Nat :=
  if num = 0 then 0
  else
    let unit := unitFor num den
    let rounded := divideToEven (num * twos (1074 - unit)) (den * twos (unit - 1074))
    min (unit * binade + rounded) infinityCode

/-- The number nearest to a signed quotient. -/
def ofFraction (negative : Bool) (num den : Nat) : Binary64 := ⟨negative, codeOf num den⟩

/-- The number nearest to a natural number. -/
def ofNat (n : Nat) : Binary64 := ofFraction false n 1

def neg (x : Binary64) : Binary64 := { x with negative := !x.negative }

/-- The product, rounded once. -/
def mul (x y : Binary64) : Binary64 :=
  let (a, b) := x.fraction
  let (c, d) := y.fraction
  ofFraction (x.negative != y.negative) (a * c) (b * d)

/-- The quotient, rounded once; the divisor is not zero. -/
def div (x y : Binary64) : Binary64 :=
  let (a, b) := x.fraction
  let (c, d) := y.fraction
  ofFraction (x.negative != y.negative) (a * d) (b * c)

/-- The sum of two magnitudes, rounded once. -/
def addMagnitudes (x y : Binary64) : Binary64 :=
  let (a, b) := x.fraction
  let (c, d) := y.fraction
  ofFraction false (a * d + c * b) (b * d)

/-- The nearest whole number of a magnitude, a half going up. -/
def roundHalfUp (x : Binary64) : Binary64 :=
  let (a, b) := x.fraction
  ofNat ((2 * a + b) / (2 * b))

end Binary64

end RecordRules.Number
