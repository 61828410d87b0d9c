import RecordRules.Domain.MappingTable
import RecordRules.Text.Ascii
import RecordRules.Text.Blank
import RecordRules.Text.Printable
import RecordRules.Text.Split

/-!
# Mapping the characters of a name

A name of a domain means the same in either case and in many forms of its letters.  Each character
is replaced by the one form that names are compared in, is left out, or may not stand in a name at
all.  A character that is its own form is valid.
-/

namespace RecordRules.Domain

def hexNumber (digits : String) : Nat :=
  digits.toList.foldl (fun n c => 16 * n + (Text.hexValue? c).getD 0) 0

/-- A run of code points, `step` apart, and what the first of them is replaced by; in a run, what
replaces the others lies as far behind. -/
structure Mapping where
  first : Nat
  last : Nat
  step : Nat
  image : List Nat
  deriving DecidableEq, Repr

namespace Mapping

def ofText (entry : String) : Mapping :=
  let (key, image) := (Text.cut '>' entry).getD (entry, "")
  let (run, step) := (Text.cut '/' key).getD (key, "1")
  let (first, last) := (Text.cut '-' run).getD (run, run)
  ⟨hexNumber first, hexNumber last, hexNumber step, (Text.splitAt '.' image).map hexNumber⟩

/-- What a code point is replaced by, when the run holds it. -/
def image? (mapping : Mapping) (code : Nat) : Option (List Nat) :=
  if mapping.first ≤ code ∧ code ≤ mapping.last ∧ (code - mapping.first) % mapping.step = 0 then
    some (mapping.image.map fun target => target + (code - mapping.first))
  else none

end Mapping

def mappings : List Mapping :=
  mappingText.flatMap fun line => (Text.words line).map Mapping.ofText

/-- May a character that is not replaced stand in no name?  The two that only join or part letters
may. -/
def isBarred (code : Nat) : Bool :=
  Text.inRanges barredRanges code
    || (Text.inRanges Text.unprintableRanges code && code != 0x200C && code != 0x200D)

/-- What a character becomes in a name, if it may stand there. -/
def mapChar (c : Char) : Option (List Char) :=
  if c.toNat < 128 then some [Text.asciiLowerChar c]
  else if Text.inRanges ignoredRanges c.toNat then some []
  else
    match mappings.findSome? fun mapping => mapping.image? c.toNat with
    | some image => some (image.map Char.ofNat)
    | none => if isBarred c.toNat then none else some [c]

def isValidChar (c : Char) : Bool := mapChar c == some [c]

/-- The characters of a name in their form, if all may stand there. -/
def mapChars (cs : List Char) : Option (List Char) := (cs.mapM mapChar).map List.flatten

end RecordRules.Domain
