import RecordRules.Number.Digits
import RecordRules.Text.Blank
import RecordRules.Text.Split

/-!
# Replies of mail servers

A reply is one or more lines, each of which begins with the code of the reply: a hyphen behind the
code says that another line follows, a space that this is the last one.  The first digit of the
code tells whether the command was accepted.
-/

namespace RecordRules.Mail

/-- A reply: its code and the texts of its lines. -/
structure Reply where
  code : Nat
  lines : List String
  deriving DecidableEq, Repr, Inhabited

/-- Why what the server says is no reply. -/
inductive ReplyError where
  /-- Something else was due here. -/
  | unexpected (rest : String)
  /-- The lines disagree on the code. -/
  | mixedCodes
  | unfinished
  deriving DecidableEq, Repr

def ReplyError.message : ReplyError → String
  | .unexpected rest => "error Tag at: " ++ rest
  | .mixedCodes => "error Not at: "
  | .unfinished => "incomplete response"

namespace Reply

/-- The first digit of the code. -/
def severity (reply : Reply) : Nat := reply.code / 100

/-- Was the command accepted, or is more awaited? -/
def isPositive (reply : Reply) : Bool := reply.severity == 2 || reply.severity == 3

/-- The first word of the first line. -/
def firstWord? (reply : Reply) : Option String :=
  reply.lines.head?.bind fun line => (Text.words line).head?

def isShortNumber (s : String) : Bool :=
  let cs := s.toList
  decide (1 ≤ cs.length ∧ cs.length ≤ 3) && cs.all Char.isDigit

/-- The text before the first space, and what follows that space. -/
def firstToken (line : String) : String × String := (Text.cut ' ' line).getD (line, "")

/-- The status code of three numbers with which the reply begins; its first number is the severity
of the reply. -/
def status? (reply : Reply) : Option String :=
  match reply.lines with
  | [] => none
  | line :: _ =>
    let token := (firstToken line).1
    match Text.splitAt '.' token with
    | [first, subject, detail] =>
      if first = Number.natText reply.severity && isShortNumber subject && isShortNumber detail then
        some token
      else none
    | _ => none

/-- A line without the status code that the first one begins with. -/
def withoutStatus (status : Option String) (line : String) : String :=
  let (token, rest) := firstToken line
  if status = some token then String.ofList (Text.trimStart rest.toList) else line

/-- What the reply says, in one line; a status code that is repeated in further lines is said
once. -/
def text (reply : Reply) : String :=
  match reply.lines with
  | [] => ""
  | line :: rest => Text.join " " (line :: rest.map (withoutStatus reply.status?))

/-- The beginning of a line: its code, and whether it is the last one. -/
structure LineHead where
  code : Nat
  isLast : Bool
  deriving DecidableEq, Repr

/-- Reads a digit of no more than a value. -/
def digit (low high : Char) (cs : List Char) : Except ReplyError (Nat × List Char) :=
  match cs with
  | c :: rest =>
    if low ≤ c ∧ c ≤ high then .ok (Number.digitValue c, rest)
    else .error (.unexpected (String.ofList cs))
  | [] => .error (.unexpected "")

def readHead (cs : List Char) : Except ReplyError (LineHead × List Char) := do
  let (hundreds, cs) ← digit '2' '5' cs
  let (tens, cs) ← digit '0' '5' cs
  let (ones, cs) ← digit '0' '9' cs
  let code := 100 * hundreds + 10 * tens + ones
  match cs with
  | '-' :: rest => return (⟨code, false⟩, rest)
  | ' ' :: rest => return (⟨code, true⟩, rest)
  | rest => throw (.unexpected (String.ofList rest))

/-- The characters before a final line end, if they end with one. -/
def beforeLineEnd? (cs : List Char) : Option (List Char) :=
  match cs.reverse with
  | '\n' :: '\r' :: rest => some rest.reverse
  | _ => none

/-- Reads a reply from the lines that a server has sent, each with its line feed; gives also the
lines behind it.  The texts read before come with their codes, and then the line begun before: a
line feed alone does not end it. -/
def readFrom (done : List (Nat × String)) (begun : Option (LineHead × List Char)) :
    List (List Char) → Except ReplyError (Reply × List (List Char))
  | [] => .error .unfinished
  | line :: rest =>
    let entry : Except ReplyError (LineHead × List Char) := match begun with
      | some (head, text) => .ok (head, text ++ line)
      | none => readHead line
    match entry with
    | .error error => .error error
    | .ok (head, text) =>
      match beforeLineEnd? text with
      | none => readFrom done (some (head, text)) rest
      | some text =>
        let done := done ++ [(head.code, String.ofList text)]
        if !head.isLast then readFrom done none rest
        else if done.all fun entry => entry.1 == head.code then
          .ok (⟨head.code, done.map Prod.snd⟩, rest)
        else .error .mixedCodes

/-- Reads a reply from the lines that a server has sent; gives also the lines behind it. -/
def read (lines : List (List Char)) : Except ReplyError (Reply × List (List Char)) :=
  readFrom [] none lines

/-- The characters in lines, each with its line feed; the line begun before comes in reverse. -/
def linesOf (line : List Char) : List Char → List (List Char)
  | [] => if line.isEmpty then [] else [line.reverse]
  | c :: rest =>
    if c = '\n' then (c :: line).reverse :: linesOf [] rest else linesOf (c :: line) rest

end Reply

end RecordRules.Mail
