import RecordRules.Text.Split

/-!
# Punycode

Labels beyond ASCII are written with letters, digits and hyphens.  The ASCII characters come first;
then, in increasing order, each other character as the number of steps from the one before, where
a step is one place in the label or, from its end, the next code point.  The numbers are written
with 36 digits, the lowest first, and a threshold for each digit tells whether it is the last; the
thresholds adapt to the numbers seen.
-/

namespace RecordRules.Domain.Punycode

/-- The digit of a value below 36. -/
def digitChar (value : Nat) : Char :=
  if value < 26 then Char.ofNat (97 + value) else Char.ofNat (22 + value)

def digitValue? (c : Char) : Option Nat :=
  if 'a' ≤ c ∧ c ≤ 'z' then some (c.toNat - 97)
  else if 'A' ≤ c ∧ c ≤ 'Z' then some (c.toNat - 65)
  else if '0' ≤ c ∧ c ≤ '9' then some (c.toNat - 22)
  else none

/-- The threshold of a digit, given by 36 times its place counted from one. -/
def threshold (bias place : Nat) : Nat :=
  if place ≤ bias then 1 else if bias + 26 ≤ place then 26 else place - bias

theorem threshold_pos (bias place : Nat) : 0 < threshold bias place := by
  unfold threshold
  split
  · omega
  · split <;> omega

/-- The bias for a number scaled down until it is small. -/
def scale (bias number : Nat) : Nat :=
  if 455 < number then scale (bias + 36) (number / 35) else bias + 36 * number / (number + 38)
termination_by number
decreasing_by omega

/-- The bias after a number, when so many characters have been written. -/
def adapt (number written : Nat) (isFirst : Bool) : Nat :=
  let number := if isFirst then number / 700 else number / 2
  scale 0 (number + number / written)

def writeNumber (bias place number : Nat) : List Char :=
  let least := threshold bias place
  if number < least then [digitChar number]
  else
    digitChar (least + (number - least) % (36 - least))
      :: writeNumber bias (place + 36) ((number - least) / (36 - least))
termination_by number
decreasing_by
  have := threshold_pos bias place
  have := Nat.div_le_self (number - threshold bias place) (36 - threshold bias place)
  omega

/-- Writing in progress: what has been written behind the ASCII characters, the steps since the
last character, the bias, and how many characters have been written. -/
structure Writer where
  digits : List Char
  steps : Nat
  bias : Nat
  written : Nat
  deriving DecidableEq, Repr

/-- Passes a character of the label, where the characters of a code point are due; of those before
it, all that are ASCII and all of lower code points are in place. -/
def Writer.pass (ascii code : Nat) (writer : Writer) (c : Char) : Writer :=
  if c.toNat < code then { writer with steps := writer.steps + 1 }
  else if c.toNat = code then
    { digits := writer.digits ++ writeNumber writer.bias 36 writer.steps
      steps := 0
      bias := adapt writer.steps (writer.written + 1) (writer.written == ascii)
      written := writer.written + 1 }
  else writer

/-- Writes the characters of the given code points, which increase; the least one that may come
next is given too. -/
def writeFrom (label : List Char) (ascii : Nat) : Nat → List Nat → Writer → Writer
  | _, [], writer => writer
  | least, code :: rest, writer =>
    let writer := { writer with steps := writer.steps + (code - least) * (writer.written + 1) }
    let writer := label.foldl (Writer.pass ascii code) writer
    writeFrom label ascii (code + 1) rest { writer with steps := writer.steps + 1 }

/-- Puts a number into its place among increasing ones, unless it is there. -/
def insertNumber (number : Nat) : List Nat → List Nat
  | [] => [number]
  | other :: rest =>
    if number < other then number :: other :: rest
    else if number = other then other :: rest
    else other :: insertNumber number rest

def increasing (numbers : List Nat) : List Nat := numbers.foldr insertNumber []

def isAscii (c : Char) : Bool := decide (c.toNat < 128)

def encode (label : List Char) : List Char :=
  let ascii := label.filter isAscii
  let codes := increasing ((label.filter fun c => !isAscii c).map Char.toNat)
  let writer := writeFrom label ascii.length 128 codes ⟨[], 0, 72, ascii.length⟩
  (if ascii.isEmpty then [] else ascii ++ ['-']) ++ writer.digits

/-- Reads a number from a place on; gives the rest of the digits too.  The weight of the digit and
the value of those before it are given. -/
def readNumber (bias place weight value : Nat) : List Char → Option (Nat × List Char)
  | [] => none
  | c :: rest =>
    match digitValue? c with
    | none => none
    | some digit =>
      let value := value + digit * weight
      let least := threshold bias place
      if digit < least then some (value, rest)
      else readNumber bias (place + 36) (weight * (36 - least)) value rest

/-- Inserts characters into a label as their numbers tell.  The code point and the place of the last
one are given, and a bound on how many there are. -/
def readFrom : Nat → Nat → Nat → Nat → List Char → List Char → Option (List Char)
  | _, _, _, _, label, [] => some label
  | 0, _, _, _, _, _ :: _ => none
  | fuel + 1, bias, code, place, label, c :: rest =>
    match readNumber bias 36 1 0 (c :: rest) with
    | none => none
    | some (steps, rest) =>
      let length := label.length + 1
      let next := code + (place + steps) / length
      let spot := (place + steps) % length
      if next < 0xD800 ∨ (0xE000 ≤ next ∧ next < 0x110000) then
        readFrom fuel (adapt steps length (place == 0)) next (spot + 1)
          (label.insertIdx spot (Char.ofNat next)) rest
      else none

/-- The ASCII characters of an encoded label and the digits behind them.  They end at the last
hyphen, unless the label begins with it. -/
def parts (cs : List Char) : List Char × List Char :=
  match Text.cutChars '-' cs.reverse with
  | some (digits, c :: ascii) => ((c :: ascii).reverse, digits.reverse)
  | _ => ([], cs)

/-- The label that an encoded one stands for. -/
def decode (cs : List Char) : Option (List Char) :=
  let (ascii, digits) := parts cs
  if ascii.all isAscii then readFrom digits.length 72 128 0 ascii digits else none

end RecordRules.Domain.Punycode
