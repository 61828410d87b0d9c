import RecordRules.Number.Digits

/-!
# UTF-8

A character is written in one to four bytes.  The first byte tells how many follow and narrows the
range of the second, so that each character has one form only; the others are continuation bytes.
-/

namespace RecordRules.Text

/-- The bytes of characters in UTF-8. -/
def utf8 (cs : List Char) : List UInt8 := cs.flatMap String.utf8EncodeChar

/-- Why bytes are not UTF-8, with the place of the character that is at fault. -/
inductive Utf8Error where
  /-- So many bytes begin no character. -/
  | invalid (place length : Nat)
  /-- The bytes end within a character. -/
  | incomplete (place : Nat)
  deriving DecidableEq, Repr

def Utf8Error.message : Utf8Error → String
  | .invalid place length =>
    "invalid utf-8 sequence of " ++ Number.natText length ++ " bytes from index "
      ++ Number.natText place
  | .incomplete place => "incomplete utf-8 byte sequence from index " ++ Number.natText place

/-- A character in the middle of being read: its bytes so far and still to come, the bounds of the
next one, and the bits read. -/
structure PartialChar where
  seen : Nat
  owed : Nat
  low : Nat
  high : Nat
  bits : Nat
  deriving DecidableEq, Repr

/-- What a first byte begins. -/
def PartialChar.ofFirst? (b : Nat) : Option PartialChar :=
  if b < 128 then some ⟨1, 0, 128, 191, b⟩
  else if 194 ≤ b ∧ b < 224 then some ⟨1, 1, 128, 191, b - 192⟩
  else if b = 224 then some ⟨1, 2, 160, 191, 0⟩
  else if b = 237 then some ⟨1, 2, 128, 159, 13⟩
  else if 225 ≤ b ∧ b < 240 then some ⟨1, 2, 128, 191, b - 224⟩
  else if b = 240 then some ⟨1, 3, 144, 191, 0⟩
  else if b = 244 then some ⟨1, 3, 128, 143, 4⟩
  else if 241 ≤ b ∧ b < 244 then some ⟨1, 3, 128, 191, b - 240⟩
  else none

/-- The character with one more byte, when that may come next. -/
def PartialChar.next? (char : PartialChar) (b : Nat) : Option PartialChar :=
  if char.low ≤ b ∧ b ≤ char.high then
    some ⟨char.seen + 1, char.owed - 1, 128, 191, char.bits * 64 + (b - 128)⟩
  else none

/-- Reads bytes from a place on; the character begun there is given. -/
def readUtf8 (place : Nat) (begun : Option PartialChar) :
    List UInt8 → Except Utf8Error (List Char)
  | [] =>
    match begun with
    | none => .ok []
    | some _ => .error (.incomplete place)
  | b :: rest =>
    let char := match begun with
      | none => PartialChar.ofFirst? b.toNat
      | some char => char.next? b.toNat
    match char with
    | none => .error (.invalid place ((begun.map PartialChar.seen).getD 1))
    | some char =>
      if char.owed = 0 then
        (readUtf8 (place + char.seen) none rest).map (Char.ofNat char.bits :: ·)
      else readUtf8 place (some char) rest

def ofUtf8 (bytes : List UInt8) : Except Utf8Error (List Char) := readUtf8 0 none bytes

end RecordRules.Text
