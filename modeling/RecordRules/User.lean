import RecordRules.Json.Decode

/-!
# Users

The contact details of the users that automation can address.
-/

namespace RecordRules

/-- The contact details of a user. -/
structure UserContact where
  id : String
  email : Option String
  phone : Option String
  firstName : Option String
  lastName : Option String
  deriving DecidableEq, Repr, Inhabited

namespace UserContact

/-- A user of whom at most the email address is known. -/
def ofEmail (id : String) (email : Option String) : UserContact := ⟨id, email, none, none, none⟩

/-- First and last name; the first alone, or the identifier, when names are missing. -/
def displayName (user : UserContact) : String :=
  match user.firstName, user.lastName with
  | some first, some last => first ++ " " ++ last
  | some first, none => first
  | none, _ => user.id

open Json (required need orElse decodeText decodeOption)

def shape : Json.Shape :=
  ⟨"UserContact",
   [required "id" decodeText, required "email" (decodeOption decodeText),
    required "phone" (decodeOption decodeText), required "first_name" (decodeOption decodeText),
    required "last_name" (decodeOption decodeText)]⟩

def ofJson (json : Json) : Except Json.DecodeError UserContact := do
  let fields ← shape.read json
  return {
    id := ← need fields "id" decodeText
    email := ← orElse fields "email" none (decodeOption decodeText)
    phone := ← orElse fields "phone" none (decodeOption decodeText)
    firstName := ← orElse fields "first_name" none (decodeOption decodeText)
    lastName := ← orElse fields "last_name" none (decodeOption decodeText) }

def toJson (user : UserContact) : Json :=
  .object [("email", Json.ofText? user.email), ("first_name", Json.ofText? user.firstName),
    ("id", .string user.id), ("last_name", Json.ofText? user.lastName),
    ("phone", Json.ofText? user.phone)]

end UserContact

end RecordRules
