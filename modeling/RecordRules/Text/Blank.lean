import RecordRules.Text.Ranges

/-!
# Blanks

Blank characters are those with the Unicode property `White_Space`.  Trimming drops them at both
ends of a text; splitting at blanks gives the words between them.
-/

namespace RecordRules.Text

/-- The characters with the property `White_Space`. -/
def blankRanges : List (Nat × Nat) :=
  [(0x9, 0xD), (0x20, 0x20), (0x85, 0x85), (0xA0, 0xA0), (0x1680, 0x1680), (0x2000, 0x200A),
   (0x2028, 0x2029), (0x202F, 0x202F), (0x205F, 0x205F), (0x3000, 0x3000)]

def isBlank (c : Char) : Bool := inRanges blankRanges c.toNat

/-- The characters left when leading blanks are dropped. -/
def trimStart (cs : List Char) : List Char := cs.dropWhile isBlank

/-- The characters left when trailing blanks are dropped. -/
def trimEnd (cs : List Char) : List Char := (cs.reverse.dropWhile isBlank).reverse

/-- The characters between the first and the last that are not blank. -/
def trimChars (cs : List Char) : List Char := trimEnd (trimStart cs)

/-- The text without the blanks at its ends. -/
def trim (s : String) : String := String.ofList (trimChars s.toList)

/-- Is there nothing but blanks? -/
def isAllBlank (s : String) : Bool := s.toList.all isBlank

/-- How many words blanks separate in the characters; `inWord` tells that one has begun. -/
def countWords (inWord : Bool) : List Char → Nat
  | [] => 0
  | c :: rest =>
    if isBlank c then countWords false rest
    else if inWord then countWords true rest
    else countWords true rest + 1

def wordCount (s : String) : Nat := countWords false s.toList

/-- The words in the characters; the one begun before comes in reverse. -/
def wordsFrom (word : List Char) : List Char → List (List Char)
  | [] => if word.isEmpty then [] else [word.reverse]
  | c :: rest =>
    if isBlank c then
      if word.isEmpty then wordsFrom [] rest else word.reverse :: wordsFrom [] rest
    else wordsFrom (c :: word) rest

/-- The words of a text, which blanks separate. -/
def words (s : String) : List String := (wordsFrom [] s.toList).map String.ofList

end RecordRules.Text
