import RecordRules.Number.Digits
import RecordRules.Number.Power
import RecordRules.Text.Ascii

/-!
# Identifiers

Universally unique identifiers as their thirty-two hexadecimal digits.  They are read in plain,
hyphenated, braced and named form and always written hyphenated in lower case.  A supply hands
out identifiers that differ from one another.
-/

namespace RecordRules

/-- An identifier of 128 bits, as its hexadecimal digits. -/
structure Uuid where
  digits : List (Fin 16)
  length_digits : digits.length = 32
  deriving DecidableEq, Repr

namespace Uuid

def nil : Uuid := ⟨List.replicate 32 0, rfl⟩

instance : Inhabited Uuid := ⟨nil⟩

/-- Why a text is no identifier. -/
inductive Fault where
  | character (found : Char) (index : Nat)
  | length (found : Nat)
  | groupCount (found : Nat)
  | groupLength (group expected found : Nat)
  deriving DecidableEq, Repr

def Fault.message : Fault → String
  | .character found index =>
    "invalid character: found `" ++ String.singleton found ++ "` at " ++ Number.natText index
  | .length found =>
    "invalid length: found " ++ Number.natText found
  | .groupCount found => "invalid group count: expected 5, found " ++ Number.natText found
  | .groupLength group expected found =>
    "invalid group length in group " ++ Number.natText group ++ ": expected "
      ++ Number.natText expected ++ ", found " ++ Number.natText found

def digit? (c : Char) : Option (Fin 16) :=
  (Text.hexValue? c).bind fun n => if h : n < 16 then some ⟨n, h⟩ else none

/-- The identifier of thirty-two hexadecimal digits. -/
def ofDigits? (cs : List Char) : Option Uuid :=
  (cs.mapM digit?).bind fun ds => if h : ds.length = 32 then some ⟨ds, h⟩ else none

/-- The characters without the hyphens between groups of the given lengths. -/
def ungroup : List Nat → List Char → Option (List Char)
  | [], [] => some []
  | [], _ :: _ => none
  | [last], cs => if cs.length = last then some cs else none
  | size :: sizes, cs =>
    match cs.drop size with
    | '-' :: rest => (ungroup sizes rest).map (cs.take size ++ ·)
    | _ => none

def groupSizes : List Nat := [8, 4, 4, 4, 12]

def ofHyphenated? (cs : List Char) : Option Uuid :=
  if cs.length = 36 then (ungroup groupSizes cs).bind ofDigits? else none

/-- The name that may precede the hyphenated form, in small or in capital letters. -/
def urnStart : List Char := "urn:uuid:".toList

/-- The part inside braces; a text without them is itself. -/
def withoutBraces (cs : List Char) : List Char :=
  if cs.head? = some '\x7b' ∧ cs.getLast? = some '\x7d' ∧ 2 ≤ cs.length then cs.tail.dropLast
  else cs

/-- The part behind the name; a text without it is itself. -/
def withoutName (cs : List Char) : List Char :=
  if (cs.take 9).map Text.asciiLowerChar = urnStart then cs.drop 9 else cs

def read? (s : String) : Option Uuid :=
  let cs := s.toList
  if cs.length = 32 then ofDigits? cs
  else if cs.length = 38 then ofHyphenated? (withoutBraces cs)
  else ofHyphenated? (withoutName cs)

/-- The first character that is neither a digit nor a hyphen, with its place in bytes. -/
def badCharacter? (index : Nat) : List Char → Option Fault
  | [] => none
  | c :: rest =>
    if c = '-' ∨ (Text.hexValue? c).isSome then badCharacter? (index + c.utf8Size) rest
    else some (.character c index)

def groupLengths : List Char → List Nat
  | [] => [0]
  | c :: rest =>
    match groupLengths rest with
    | [] => [0]
    | size :: sizes => if c = '-' then 0 :: size :: sizes else (size + 1) :: sizes

/-- The first group whose length is not the expected one. -/
def badGroup? (group : Nat) : List Nat → List Nat → Option Fault
  | expected :: more, size :: sizes =>
    if size = expected then badGroup? (group + 1) more sizes
    else some (.groupLength group expected size)
  | _, _ => none

/-- What is wrong with a text that is no identifier.  Places are counted from where braces and the
name end. -/
def diagnose (s : String) : Fault :=
  let cs := s.toList
  let core := withoutName (withoutBraces cs)
  match badCharacter? 0 core with
  | some fault => fault
  | none =>
    let sizes := groupLengths core
    if sizes.length = 1 then .length cs.length
    else if sizes.length ≠ 5 then .groupCount sizes.length
    else (badGroup? 0 groupSizes sizes).getD (.length cs.length)

def digitChars (id : Uuid) : List Char := id.digits.map fun d => Text.hexDigit d.val

/-- The characters with hyphens between groups of the given lengths. -/
def group : List Nat → List Char → List Char
  | [], cs => cs
  | [_], cs => cs
  | size :: sizes, cs => cs.take size ++ '-' :: group sizes (cs.drop size)

/-- The hyphenated form in lower case. -/
def text (id : Uuid) : String := String.ofList (group groupSizes id.digitChars)

/-- The lowest hexadecimal digits of a number, the most significant first. -/
def lowDigits (n : Nat) : Nat → List (Fin 16)
  | 0 => []
  | count + 1 => lowDigits (n / 16) count ++ [⟨n % 16, Nat.mod_lt _ (by decide)⟩]

theorem length_lowDigits (count n : Nat) : (lowDigits n count).length = count := by
  induction count generalizing n with
  | zero => rfl
  | succ count ih => simp [lowDigits, ih]

/-- The identifier with a serial number, marked as one that was drawn at random. -/
def numbered (n : Nat) : Uuid :=
  ⟨lowDigits (n / Number.twos 72) 12
      ++ 4 :: (lowDigits (n / Number.twos 60) 3 ++ 8 :: lowDigits n 15), by
    simp [length_lowDigits]⟩

end Uuid

/-- A source of identifiers, as the number of those handed out. -/
structure IdSupply where
  drawn : Nat
  deriving DecidableEq, Repr, Inhabited

def IdSupply.draw (supply : IdSupply) : Uuid × IdSupply :=
  (Uuid.numbered supply.drawn, ⟨supply.drawn + 1⟩)

end RecordRules
