/-!
# Cutting and joining texts

A text is cut at a separating character into pieces, one more than there are separators, and
pieces are joined again by a separator.  Containment is containment of a run of characters.
-/

namespace RecordRules.Text

/-- The pieces between the separators; there is always a first one. -/
def pieces (separator : Char) : List Char → List Char × List (List Char)
  | [] => ([], [])
  | c :: rest =>
    let (head, tail) := pieces separator rest
    if c = separator then ([], head :: tail) else (c :: head, tail)

/-- The pieces of a text between separators, in order. -/
def splitAt (separator : Char) (s : String) : List String :=
  let (head, tail) := pieces separator s.toList
  (head :: tail).map String.ofList

/-- The text before and after the first separator, when there is one. -/
def cutChars (separator : Char) : List Char → Option (List Char × List Char)
  | [] => none
  | c :: rest =>
    if c = separator then some ([], rest)
    else (cutChars separator rest).map fun (before, after) => (c :: before, after)

/-- The text before and after the first separator, when there is one. -/
def cut (separator : Char) (s : String) : Option (String × String) :=
  (cutChars separator s.toList).map fun (before, after) =>
    (String.ofList before, String.ofList after)

def join (separator : String) : List String → String
  | [] => ""
  | [s] => s
  | s :: rest => s ++ separator ++ join separator rest

def startsWith : List Char → List Char → Bool
  | _, [] => true
  | [], _ :: _ => false
  | c :: text, p :: part => c == p && startsWith text part

def endsWith (text part : List Char) : Bool := startsWith text.reverse part.reverse

/-- Do the given characters stand side by side somewhere in the text? -/
def contains (text part : List Char) : Bool :=
  startsWith text part ||
    match text with
    | [] => false
    | _ :: rest => contains rest part

/-- The text without the characters for which the test holds. -/
def without (drop : Char → Bool) (s : String) : String :=
  String.ofList (s.toList.filter fun c => !drop c)

/-- The characters of a text behind the given start, when it has that start. -/
def afterStart? : List Char → List Char → Option (List Char)
  | text, [] => some text
  | [], _ :: _ => none
  | c :: text, p :: part => if c = p then afterStart? text part else none

end RecordRules.Text
