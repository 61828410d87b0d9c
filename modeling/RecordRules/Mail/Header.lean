import RecordRules.Mail.Mailbox
import RecordRules.Text.Base64
import RecordRules.Text.Utf8

/-!
# Mail headers

The value of a header is written in lines of no more than 76 characters where it can be broken at
a space.  What is not plain is written as encoded words, each of which fits into its line.  A line
break stands before a space and means nothing, so the value is kept as it reads without breaks.
-/

namespace RecordRules.Mail

/-- The longest line of a header. -/
def lineLimit : Nat := 76

/-- A header in the middle of being written: the value so far, the column in the last line, and the
spaces that wait for the next word. -/
structure HeaderLine where
  written : List Char
  column : Nat
  pending : Nat
  deriving DecidableEq, Repr

namespace HeaderLine

def start (name : String) : HeaderLine := ⟨[], name.length + 2, 0⟩

/-- One more space, should a word follow. -/
def space (line : HeaderLine) : HeaderLine := { line with pending := line.pending + 1 }

/-- Goes on in a new line, which begins with at least one space. -/
def fold (line : HeaderLine) : HeaderLine :=
  { line with column := 0, pending := max 1 line.pending }

/-- Writes a word behind the spaces that wait for it. -/
def write (line : HeaderLine) (word : List Char) : HeaderLine where
  written := line.written ++ List.replicate line.pending ' ' ++ word
  column := line.column + line.pending + word.length
  pending := 0

/-- Writes a word in a new line, if it does not fit into this one and there is a space to break
at. -/
def writeFolding (line : HeaderLine) (word : List Char) : HeaderLine :=
  if word.isEmpty then line
  else if 0 < line.pending ∧ lineLimit < line.column + line.pending + word.length then
    line.fold.write word
  else line.write word

/-- Writes a text, which may be broken at its spaces. -/
def writeText (line : HeaderLine) (text : List Char) : HeaderLine :=
  let (head, tail) := Text.pieces ' ' text
  tail.foldl (fun line word => line.space.writeFolding word) (line.writeFolding head)

def encodedWord (cs : List Char) : List Char :=
  "=?utf-8?b?".toList ++ Text.base64Chars (Text.utf8 cs) ++ "?=".toList

/-- How many bytes an encoded word in this line may stand for. -/
def room (line : HeaderLine) : Nat := (lineLimit - (line.column + line.pending + 12)) / 4 * 3

/-- The longest beginning of characters that takes no more than so many bytes, and the rest. -/
def takeBytes (size : Nat) : List Char → List Char × List Char
  | [] => ([], [])
  | c :: rest =>
    if c.utf8Size ≤ size then
      let (taken, left) := takeBytes (size - c.utf8Size) rest
      (c :: taken, left)
    else ([], c :: rest)

/-- Writes characters as encoded words, as many lines as it takes; the argument bounds the number
of words.  Where not even the first character fits, a word of it alone is written. -/
def writeEncodedWords : Nat → HeaderLine → List Char → HeaderLine
  | _, line, [] => line
  | 0, line, _ => line
  | fuel + 1, line, c :: rest =>
    let (word, left) := match takeBytes line.room (c :: rest) with
      | ([], _) => ([c], rest)
      | parts => parts
    let line := line.write (encodedWord word)
    if left.isEmpty then line else writeEncodedWords fuel line.fold left

/-- Writes characters as encoded words, in a new line if none fits into this one. -/
def writeEncoded (line : HeaderLine) (cs : List Char) : HeaderLine :=
  let line := if 0 < line.pending && (takeBytes line.room cs).1.isEmpty then line.fold else line
  writeEncodedWords cs.length line cs

def value (line : HeaderLine) : String := Text.trim (String.ofList line.written)

end HeaderLine

/-- May the character stand in a header as it is? -/
def isHeaderChar (c : Char) : Bool :=
  let n := c.toNat
  decide ((1 ≤ n ∧ n ≤ 9) ∨ n = 11 ∨ n = 12 ∨ (14 ≤ n ∧ n ≤ 127))

/-- The words of a text, each with the one space behind it; the word begun before comes in
reverse. -/
def wordsWithSpaces (word : List Char) : List Char → List (List Char)
  | [] => if word.isEmpty then [] else [word.reverse]
  | c :: rest =>
    if c = ' ' then (c :: word).reverse :: wordsWithSpaces [] rest
    else wordsWithSpaces (c :: word) rest

/-- Writes gathered characters as encoded words; the spaces at their end stay as they are. -/
def HeaderLine.flush (line : HeaderLine) (gathered : List Char) : HeaderLine :=
  let core := (gathered.reverse.dropWhile (· == ' ')).reverse
  let line := line.writeEncoded core
  { line with pending := line.pending + (gathered.length - core.length) }

/-- Writes the words of a text, neighbouring ones that need it encoded together. -/
def HeaderLine.writeWords (line : HeaderLine) (gathered : List Char) :
    List (List Char) → HeaderLine
  | [] => line.flush gathered
  | word :: rest =>
    if word.all isHeaderChar then ((line.flush gathered).writeText word).writeWords [] rest
    else line.writeWords (gathered ++ word) rest

/-- A text as the value of a header of a name. -/
def textHeader (name s : String) : String :=
  ((HeaderLine.start name).writeWords [] (wordsWithSpaces [] s.toList)).value

/-- How a display name is written. -/
inductive NameStyle where
  | plain
  | inQuotes
  | encoded
  deriving DecidableEq, Repr

/-- May the character stand in a display name without quotes? -/
def isPlainNameChar (c : Char) : Bool :=
  Text.isAsciiAlphanumeric c || c == '.' || c == '-' || c == '_'

/-- How a display name is written: in quotes if it has spaces or quotes, and encoded if there is
anything else in it than letters, digits, dots, hyphens and underscores. -/
def NameStyle.ofName (name : List Char) : NameStyle :=
  if name.all isPlainNameChar then .plain
  else if name.all fun c => isPlainNameChar c || c == ' ' || c == '"' || c == '\\' then .inQuotes
  else .encoded

def HeaderLine.writeName (line : HeaderLine) (name : List Char) : HeaderLine :=
  match NameStyle.ofName name with
  | .plain => line.writeText name
  | .inQuotes =>
    let escaped := name.flatMap fun c => if c == '"' || c == '\\' then ['\\', c] else [c]
    ((line.write ['"']).writeText escaped).write ['"']
  | .encoded => line.writeEncoded name

/-- A mailbox as the value of a header of a name. -/
def Mailbox.header (name : String) (mailbox : Mailbox) : String :=
  let line := HeaderLine.start name
  let address := mailbox.address.toList
  match mailbox.name with
  | some display =>
    ((line.writeName display.toList).space.write ('<' :: address ++ ['>'])).value
  | none => (line.write address).value

end RecordRules.Mail
