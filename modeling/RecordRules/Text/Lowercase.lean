import RecordRules.Text.Ascii
import RecordRules.Text.CaseTable

/-!
# Lower case

Full Unicode lower-casing.  Every letter maps on its own, except that a capital sigma that ends a
word becomes the final sigma and that the dotted capital I keeps its dot as a mark of its own.
-/

namespace RecordRules.Text

def isCased (c : Char) : Bool := inRanges casedRanges c.toNat

/-- Is the character passed over in the search for a neighbouring letter? -/
def isCaseIgnorable (c : Char) : Bool := inRanges caseIgnorableRanges c.toNat

/-- The lower-case form of a letter away from its context. -/
def lowerChar (c : Char) : List Char :=
  if c.toNat < 128 then [asciiLowerChar c]
  else if c = 'İ' then ['i', '\u0307']
  else match caseRuns.findSome? (CaseRun.lower? · c.toNat) with
    | some code => [Char.ofNat code]
    | none => [c]

/-- Is the first character that matters a cased one? -/
def meetsCased (cs : List Char) : Bool :=
  match cs.dropWhile isCaseIgnorable with
  | [] => false
  | c :: _ => isCased c

/-- A sigma ends a word when a cased letter precedes it and none follows. -/
def lowerSigma (before after : List Char) : Char :=
  if meetsCased before && !meetsCased after then 'ς' else 'σ'

/-- Lower-cases the characters; `before` holds those already read, the nearest first. -/
def lowerFrom (before : List Char) : List Char → List Char
  | [] => []
  | c :: rest =>
    (if c = 'Σ' then [lowerSigma before rest] else lowerChar c) ++ lowerFrom (c :: before) rest

def lowerChars (cs : List Char) : List Char := lowerFrom [] cs

def lowercase (s : String) : String := String.ofList (lowerChars s.toList)

end RecordRules.Text
