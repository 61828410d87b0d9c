import RecordRules.Mail.Body
import RecordRules.Mail.Header

/-!
# Mail messages

A mail as it is sent: its sender and its recipient, its headers and its body.
-/

namespace RecordRules.Mail

/-- A message: sender, recipient, and the headers and the body as they are sent. -/
structure Message where
  sender : Mailbox
  recipient : Mailbox
  headers : List (String × String)
  body : String
  deriving Repr, Inhabited

def isAscii (s : String) : Bool := s.toList.all fun c => decide (c.toNat < 128)

namespace Message

def compose (fromName fromEmail recipient subject body : String) (isHtml : Bool) :
    Except AddressError Message := do
  let sender ← Mailbox.read (fromName ++ " <" ++ fromEmail ++ ">")
  let recipient ← Mailbox.read recipient
  let contentType :=
    if isHtml then "text/html; charset=utf-8" else "text/plain; charset=utf-8"
  return {
    sender, recipient
    headers := [("Content-Type", contentType), ("From", sender.header "From"),
      ("Subject", textHeader "Subject" subject), ("To", recipient.header "To")]
    body := encodeBody body }

/-- Are the addresses of sender and recipient ASCII alone? -/
def hasAsciiAddresses (message : Message) : Bool :=
  isAscii message.sender.address && isAscii message.recipient.address

def isAscii (message : Message) : Bool :=
  message.headers.all (fun header => Mail.isAscii header.2) && Mail.isAscii message.body

end Message

end RecordRules.Mail
