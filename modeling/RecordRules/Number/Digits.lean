import RecordRules.Number.Power

/-!
# Decimal digits of natural numbers

A natural number is written by its decimal digits, the most significant first, and read back by
folding them.
-/

namespace RecordRules.Number

def digitChar (d : Nat) : Char := Char.ofNat (48 + d)

def digitValue (c : Char) : Nat := c.toNat - 48

/-- The decimal digits of a number, without leading zeros. -/
def digits (n : Nat) : List Char :=
  if n < 10 then [digitChar n]
  else digits (n / 10) ++ [digitChar (n % 10)]
termination_by n
decreasing_by omega

/-- The number that digits denote, going on from what was read before. -/
def readDigits (start : Nat) (cs : List Char) : Nat :=
  cs.foldl (fun n c => 10 * n + digitValue c) start

def natText (n : Nat) : String := String.ofList (digits n)

/-- An integer in decimal, with a minus sign when it is negative. -/
def intText (n : Int) : String :=
  match n with
  | .ofNat m => natText m
  | .negSucc m => "-" ++ natText (m + 1)

/-- The digits, filled up with zeros from the left to the given width. -/
def padded (width n : Nat) : String :=
  let ds := digits n
  String.ofList (List.replicate (width - ds.length) '0' ++ ds)

/-- Reads an integer with an optional sign; nothing but ASCII digits may follow it. -/
def readInt? (s : String) : Option Int :=
  let read (cs : List Char) : Option Nat :=
    if cs.isEmpty || !cs.all Char.isDigit then none else some (readDigits 0 cs)
  match s.toList with
  | '+' :: cs => (read cs).map Int.ofNat
  | '-' :: cs => (read cs).map fun n => -Int.ofNat n
  | cs => (read cs).map Int.ofNat

/-- The integers of 64 bits with a sign. -/
def isInt64 (n : Int) : Bool := decide (-(twos 63 : Int) ≤ n ∧ n < twos 63)

/-- The integers of 32 bits with a sign. -/
def isInt32 (n : Int) : Bool := decide (-(twos 31 : Int) ≤ n ∧ n < twos 31)

/-- Reads a 64-bit integer. -/
def readInt64? (s : String) : Option Int :=
  (readInt? s).filter isInt64

/-- Reads an unsigned integer below the bound; a plus sign is allowed. -/
def readBelow? (bound : Nat) (s : String) : Option Nat :=
  let cs := match s.toList with
    | '+' :: cs => cs
    | cs => cs
  if cs.isEmpty || !cs.all Char.isDigit then none
  else
    let n := readDigits 0 cs
    if n < bound then some n else none

end RecordRules.Number
