/-!
# Powers

The powers of two by which the ranges of numbers are bounded, and the powers of ten by which
decimals are scaled.
-/

namespace RecordRules.Number

/-- Two to a power; one more than the greatest number of so many bits. -/
def twos (n : Nat) : Nat := Nat.pow 2 n

/-- Ten to a power; one more than the greatest number of so many digits. -/
def tens (n : Nat) : Nat := Nat.pow 10 n

end RecordRules.Number
