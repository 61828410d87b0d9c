import RecordRules.Domain.Name
import RecordRules.Text.Alphanumeric
import RecordRules.Text.Blank
import RecordRules.Text.Split

/-!
# Mailboxes

An address of a user at a domain, perhaps with a display name before it in pointed brackets.  What
is read is checked again: the user must be dotted words, the domain dotted labels.
-/

namespace RecordRules.Mail

/-- Why a text is no mailbox. -/
inductive AddressError where
  | unreadable
  | badUser
  | badDomain
  deriving DecidableEq, Repr

def AddressError.message : AddressError → String
  | .unreadable => "Invalid input"
  | .badUser => "Invalid email user"
  | .badDomain => "Invalid email domain"

/-- A mailbox. -/
structure Mailbox where
  name : Option String
  user : String
  domain : String
  deriving DecidableEq, Repr, Inhabited

def Mailbox.address (mailbox : Mailbox) : String := mailbox.user ++ "@" ++ mailbox.domain

/-- A reader of the beginning of a text: what was read, and the rest. -/
abbrev Reader (α : Type) := List Char → Option (α × List Char)

/-- May the character stand in a word?  Characters outside ASCII may. -/
def isWordChar (c : Char) : Bool :=
  Text.isAsciiAlphanumeric c || decide (128 ≤ c.toNat)
    || ['!', '#', '$', '%', '&', '\'', '*', '+', '-', '/', '=', '?', '^', '_', '\x60', '\x7b', '|',
      '\x7d', '~'].contains c

def isSpace (c : Char) : Bool := c == ' ' || c == '\t'

/-- Reads spaces, which count as one. -/
def spaces (cs : List Char) : List Char × List Char :=
  (if cs.head?.any isSpace then [' '] else [], cs.dropWhile isSpace)

/-- Reads a word of at least one character. -/
def plainWord : Reader (List Char) := fun cs =>
  match cs.takeWhile isWordChar with
  | [] => none
  | word => some (word, cs.dropWhile isWordChar)

/-- Reads further words, each behind a dot, as long as there are some. -/
def dottedMore : Nat → List Char → List Char × List Char
  | 0, cs => ([], cs)
  | fuel + 1, cs =>
    match cs with
    | '.' :: rest =>
      match plainWord rest with
      | some (word, rest) =>
        let (more, rest) := dottedMore fuel rest
        ('.' :: word ++ more, rest)
      | none => ([], cs)
    | _ => ([], cs)

def dottedWords : Reader (List Char) := fun cs =>
  (plainWord cs).map fun (word, rest) =>
    let (more, rest) := dottedMore rest.length rest
    (word ++ more, rest)

def isQuotedChar (c : Char) : Bool :=
  let n := c.toNat
  decide (n = 33 ∨ (35 ≤ n ∧ n ≤ 91) ∨ (93 ≤ n ∧ n ≤ 126) ∨ (1 ≤ n ∧ n ≤ 8) ∨ n = 11 ∨ n = 12
    ∨ (14 ≤ n ∧ n ≤ 31) ∨ 127 ≤ n)

/-- May the character follow a backslash in quotes? -/
def isEscapable (c : Char) : Bool :=
  let n := c.toNat
  decide ((1 ≤ n ∧ n ≤ 9) ∨ n = 11 ∨ n = 12 ∨ (14 ≤ n ∧ n ≤ 127))

/-- Reads the inside of quotes up to and with the closing one.  Spaces count as one; at the end they
do not count. -/
def quotedInside (space : List Char) : List Char → Option (List Char × List Char)
  | [] => none
  | '"' :: rest => some ([], rest)
  | '\\' :: c :: rest =>
    if isEscapable c then
      (quotedInside [] rest).map fun (read, rest) => (space ++ c :: read, rest)
    else none
  | c :: rest =>
    if isSpace c then quotedInside [' '] rest
    else if isQuotedChar c then
      (quotedInside [] rest).map fun (read, rest) => (space ++ c :: read, rest)
    else none

def quoted : Reader (List Char) := fun cs =>
  match cs with
  | '"' :: rest => quotedInside [] rest
  | _ => none

/-- Reads what the first of two readers takes, else what the second does. -/
def either (first second : Reader α) : Reader α := fun cs => (first cs).or (second cs)

/-- Reads the user of an address: dotted words or a text in quotes, whichever comes first. -/
def localPart : Reader String := fun cs =>
  (either dottedWords quoted (cs.dropWhile isSpace)).map fun (user, rest) =>
    (String.ofList user, rest)

def domainPart : Reader String := fun cs =>
  (dottedWords (cs.dropWhile isSpace)).map fun (domain, rest) => (String.ofList domain, rest)

def addressPart : Reader (String × String) := fun cs =>
  match localPart cs with
  | some (user, '@' :: rest) =>
    (domainPart rest).map fun (domain, rest) => ((user, domain), rest)
  | _ => none

/-- Reads a word or a text in quotes with the spaces before it. -/
def nameWord : Reader (List Char) := fun cs =>
  let (space, rest) := spaces cs
  (either quoted plainWord rest).map fun (word, rest) => (space ++ word, rest)

/-- Reads words and dots of a display name, as long as there are some. -/
def nameParts : Nat → List Char → List Char × List Char
  | 0, cs => ([], cs)
  | fuel + 1, cs =>
    match nameWord cs with
    | some (word, rest) =>
      let (more, rest) := nameParts fuel rest
      (word ++ more, rest)
    | none =>
      match cs with
      | '.' :: rest =>
        let (more, rest) := nameParts fuel rest
        ('.' :: more, rest)
      | _ => ([], cs)

/-- Reads a display name, if there is one; it does not begin with a dot. -/
def displayName (cs : List Char) : Option String × List Char :=
  match nameWord cs with
  | some (word, rest) =>
    let (more, rest) := nameParts rest.length rest
    (some (String.ofList (word ++ more)), rest)
  | none => (none, cs)

/-- Reads an address in pointed brackets with a display name before it, if there is one. -/
def named : Reader (Option String × String × String) := fun cs =>
  let (name, rest) := displayName cs
  match Text.trimStart rest with
  | '<' :: rest =>
    match addressPart rest with
    | some (found, '>' :: rest) => some ((name, found), rest)
    | _ => none
  | _ => none

def isWord (s : String) : Bool := !s.isEmpty && s.toList.all isWordChar

/-- Are the characters the inside of quotes as it is written, with backslashes? -/
def isQuotedText : List Char → Bool
  | [] => true
  | '\\' :: c :: rest => decide (33 ≤ c.toNat ∧ c.toNat ≤ 126) && isQuotedText rest
  | c :: rest =>
    (isSpace c || decide (33 ≤ c.toNat ∧ c.toNat ≠ 127)) && c != '"' && c != '\\'
      && isQuotedText rest

/-- Are the characters a text with quotes around it that is not empty? -/
def isInQuotes (cs : List Char) : Bool :=
  decide (3 ≤ cs.length) && cs.head? == some '"' && cs.getLast? == some '"'
    && isQuotedText cs.tail.dropLast

/-- Is the text dotted words or a text in quotes, of no more than 64 bytes? -/
def isUser (s : String) : Bool :=
  decide (s.utf8ByteSize ≤ 64) && (isInQuotes s.toList || (Text.splitAt '.' s).all isWord)

def isLabel (s : String) : Bool :=
  isWord s && decide (s.utf8ByteSize ≤ 63) && s.toList.head?.all Text.isAlphanumeric
    && s.toList.getLast?.all Text.isAlphanumeric

/-- Is the text dotted labels, of no more than 254 bytes? -/
def isDomain (s : String) : Bool :=
  decide (s.utf8ByteSize ≤ 254) && (Text.splitAt '.' s).all isLabel

/-- Is the text a domain, as it is or as its form in ASCII? -/
def isNamedDomain (s : String) : Bool :=
  isDomain s || (Domain.toAscii? (fun _ => false) s.toList).any fun name =>
    isDomain (String.ofList name)

/-- Reads a mailbox; blanks around it do not count. -/
def Mailbox.read (s : String) : Except AddressError Mailbox :=
  let cs := Text.trimChars s.toList
  let plain : Reader (Option String × String × String) := fun cs =>
    (addressPart cs).map fun (found, rest) => ((none, found), rest)
  match either named plain cs with
  | some ((name, user, domain), []) =>
    if !isUser user then .error .badUser
    else if !isNamedDomain domain then .error .badDomain
    else .ok ⟨name, user, domain⟩
  | _ => .error .unreadable

end RecordRules.Mail
