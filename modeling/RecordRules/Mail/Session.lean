import RecordRules.Error
import RecordRules.Host.Run
import RecordRules.Mail.Message
import RecordRules.Mail.Server
import RecordRules.Text.Ascii

/-!
# Mail sessions

The dialogue in which a message is handed to a mail server: greeting, encryption if asked for,
the user if there is one, sender, recipient and message.  What the server says is read line by line;
lines that no command has asked for are taken as the reply to the next one.
-/

namespace RecordRules.Mail

/-- Why a message was not taken. -/
inductive SessionError where
  /-- The client gives up by itself. -/
  | client (message : String)
  /-- The server says what makes no sense. -/
  | response (message : String)
  /-- The server refuses for the time being. -/
  | transient (code : Nat) (message : String)
  /-- The server refuses for good. -/
  | permanent (code : Nat) (message : String)
  deriving DecidableEq, Repr

def SessionError.message : SessionError → String
  | .client message => "internal client error: " ++ message
  | .response message => "response error: " ++ message
  | .transient code message => "transient error (" ++ Number.natText code ++ "): " ++ message
  | .permanent code message => "permanent error (" ++ Number.natText code ++ "): " ++ message

/-- How a session ends before its time. -/
inductive Interruption where
  | error (error : SessionError)
  | panic
  deriving DecidableEq, Repr

/-- How messages are handed over: the user to present, and whether encryption is asked for. -/
structure Account where
  username : String
  password : String
  useTls : Bool
  deriving Repr, Inhabited

/-- What the server took: the line that presents the user, sender, recipient, and the message if it
came to that. -/
structure Transcript where
  login : Option String
  sender : Option String
  recipient : Option String
  message : Option Message
  deriving Repr, Inhabited

/-- A server in the middle of a session, with the lines it has sent that nobody has read. -/
structure Session where
  server : Server
  unread : List (List Char)
  deriving Repr, Inhabited

abbrev Dialogue (α : Type) := StateT Session (Except Interruption) α

def giveUp (error : SessionError) : Dialogue α := throw (.error error)

/-- The error that a reply means when it is not positive. -/
def refusal (reply : Reply) : SessionError :=
  if reply.severity = 4 then .transient reply.code reply.text
  else .permanent reply.code reply.text

/-- Reads a reply, which must be positive. -/
def listen : Dialogue Reply := do
  let session ← get
  match Reply.read session.unread with
  | .error error => giveUp (.response error.message)
  | .ok (reply, unread) =>
    set { session with unread }
    if reply.isPositive then return reply else giveUp (refusal reply)

/-- Gives a command to the server and reads its reply. -/
def command (verb : String) : Dialogue Reply := do
  modify fun session =>
    let sent := (session.server.reply verb).toList ++ ['\r', '\n']
    { session with unread := session.unread ++ Reply.linesOf [] sent }
  listen

/-- Greets the server; tells what it offers. -/
def greet : Dialogue Features := do
  let reply ← command "EHLO"
  if reply.firstWord?.isNone then giveUp (.response "Could not read server name")
  if reply.hasBlankLine then throw .panic
  return Features.ofReply reply

/-- The challenge in a reply, which is written in base 64. -/
def challenge (reply : Reply) : Except SessionError String :=
  match reply.firstWord? with
  | none => .error (.response "Could not read auth challenge")
  | some word =>
    match Text.ofBase64 (Text.utf8 word.toList) with
    | .error error => .error (.response error.message)
    | .ok bytes =>
      match Text.ofUtf8 bytes with
      | .error error => .error (.response error.message)
      | .ok cs => .ok (String.ofList cs)

def nameQuestions : List String := ["User Name", "Username:", "Username", "User Name\x00"]

def passwordQuestions : List String := ["Password", "Password:", "Password\x00"]

/-- What a way to log in answers to a challenge. -/
def Mechanism.answer (mechanism : Mechanism) (account : Account) (question : String) :
    Except SessionError String :=
  match mechanism with
  | .plain => .error (.client "This mechanism does not expect a challenge")
  | .login =>
    if nameQuestions.any (Text.sameName question) then .ok account.username
    else if passwordQuestions.any (Text.sameName question) then .ok account.password
    else .error (.client "Unrecognized challenge")

/-- The command that begins a login. -/
def Mechanism.opening (account : Account) : Mechanism → String
  | .plain =>
    "AUTH PLAIN " ++ Text.base64
      ([0] ++ Text.utf8 account.username.toList ++ [0] ++ Text.utf8 account.password.toList)
  | .login => "AUTH LOGIN"

/-- Answers challenges until there is none, or until so many have been answered. -/
def answerChallenges (account : Account) (mechanism : Mechanism) : Nat → Reply → Dialogue Unit
  | 0, _ => giveUp (.response "Unexpected number of challenges")
  | left + 1, reply =>
    if reply.code ≠ 334 then return ()
    else
      match (challenge reply).bind (mechanism.answer account) with
      | .error error => giveUp error
      | .ok answer => do
        let reply ← command (Text.base64 (Text.utf8 answer.toList))
        answerChallenges account mechanism left reply

/-- Presents the user, if there is one. -/
def login (account : Account) (features : Features) : Dialogue (Option String) := do
  if account.username.isEmpty then return none
  match features.mechanism? with
  | none => giveUp (.client "No compatible authentication mechanism was found")
  | some mechanism =>
    let reply ← command "AUTH"
    answerChallenges account mechanism 10 reply
    return some (mechanism.opening account)

/-- Does the server offer what the message needs? -/
def checkFeatures (features : Features) (message : Message) : Dialogue Unit := do
  if !message.hasAsciiAddresses && !features.wideAddresses then
    giveUp (.client
      "Envelope contains non-ascii chars but server does not support SMTPUTF8")
  if !message.isAscii && !features.eightBit then
    giveUp (.client "Message contains non-ascii chars but server does not support 8BITMIME")

def handOver (account : Account) (message : Message) : Dialogue Transcript := do
  let server := (← get).server
  let features ← greet
  if account.useTls then giveUp (.client "STARTTLS is not supported on this server")
  let line ← login account features
  checkFeatures features message
  let _ ← command "MAIL"
  let _ ← command "RCPT"
  let _ ← command "DATA"
  let _ ← command "."
  return {
    login := line.filter fun _ => server.takes "AUTH"
    sender := if server.takes "MAIL" then some message.sender.address else none
    recipient := if server.takes "RCPT" then some message.recipient.address else none
    message := if server.takes "DATA" then some message else none }

/-- Composes and hands over an email. -/
def send (account : Account) (server : Server)
    (fromName fromEmail recipient subject body : String) (isHtml : Bool) :
    Ending (Except WorkflowError Transcript) :=
  match Message.compose fromName fromEmail recipient subject body isHtml with
  | .error error => .value (.error (.resolution ("invalid email address: " ++ error.message)))
  | .ok message =>
    match (handOver account message).run ⟨server, []⟩ with
    | .ok (transcript, _) => .value (.ok transcript)
    | .error (.error error) => .value (.error (.collaborator "email" error.message))
    | .error .panic => .panic

end RecordRules.Mail
