import RecordRules.Json.Basic

/-!
# Emails

An email as automation hands it over to be sent.
-/

namespace RecordRules

/-- An email to one recipient. -/
structure Email where
  recipient : String
  subject : String
  body : String
  isHtml : Bool
  deriving DecidableEq, Repr, Inhabited

def Email.toJson (email : Email) : Json :=
  .object [("body", .string email.body), ("is_html", .bool email.isHtml),
    ("subject", .string email.subject), ("to", .string email.recipient)]

end RecordRules
