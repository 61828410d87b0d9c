import RecordRules.Mail.Reply

/-!
# Mail servers

A server answers every command with a reply.  In its greeting it lists what it offers: bytes and
addresses beyond ASCII, encryption, and ways to log in.
-/

namespace RecordRules.Mail

/-- A mail server that accepts everything, but for one command that it answers as it is told. -/
structure Server where
  offersLogin : Bool
  special : Option (String × String)
  deriving Repr, Inhabited

namespace Server

def usualReply (server : Server) (verb : String) : String :=
  if verb = "EHLO" then
    if server.offersLogin then "250-mail\r\n250 AUTH PLAIN" else "250 mail"
  else if verb = "AUTH" then "235 accepted"
  else if verb = "DATA" then "354 go ahead"
  else "250 accepted"

def reply (server : Server) (verb : String) : String :=
  match server.special with
  | some (special, reply) => if special = verb then reply else server.usualReply verb
  | none => server.usualReply verb

/-- Is the command answered as every server answers it?  Only then its content is taken. -/
def takes (server : Server) (verb : String) : Bool :=
  !server.special.any fun special => special.1 == verb

end Server

/-- The ways to log in that a client knows, in the order in which it prefers them. -/
inductive Mechanism where
  | plain
  | login
  deriving DecidableEq, Repr

namespace Mechanism

def all : List Mechanism := [.plain, .login]

def name : Mechanism → String
  | .plain => "PLAIN"
  | .login => "LOGIN"

end Mechanism

/-- What a server offers. -/
structure Features where
  eightBit : Bool
  wideAddresses : Bool
  encryption : Bool
  mechanisms : List String
  deriving DecidableEq, Repr, Inhabited

namespace Features

/-- What one line of a greeting adds; the words of the line are given. -/
def add (features : Features) : List String → Features
  | "8BITMIME" :: _ => { features with eightBit := true }
  | "SMTPUTF8" :: _ => { features with wideAddresses := true }
  | "STARTTLS" :: _ => { features with encryption := true }
  | "AUTH" :: names => { features with mechanisms := features.mechanisms ++ names }
  | _ => features

def ofReply (reply : Reply) : Features :=
  reply.lines.foldl (fun features line => features.add (Text.words line)) ⟨false, false, false, []⟩

/-- The preferred way to log in among those offered. -/
def mechanism? (features : Features) : Option Mechanism :=
  Mechanism.all.find? fun mechanism => features.mechanisms.contains mechanism.name

end Features

/-- Is there a line of blanks alone in a greeting?  No client can read it. -/
def Reply.hasBlankLine (reply : Reply) : Bool :=
  reply.lines.any fun line => !line.isEmpty && Text.isAllBlank line

end RecordRules.Mail
