import RecordRules.Json.Decode

/-!
# Webhook requests

A call of a web address with a payload, and what its delivery came to.
-/

namespace RecordRules

/-- A call of a web address; the headers lie in order of their names. -/
structure WebhookRequest where
  url : String
  method : String
  payload : Json
  headers : List (String × String)
  deriving Repr, Inhabited

/-- A delivered call: the status of the answer and the number of attempts it took. -/
structure WebhookDelivery where
  statusCode : Nat
  attempts : Nat
  deriving DecidableEq, Repr, Inhabited

namespace WebhookRequest

open Json (required need decodeText decodeAny decodeTextMap)

def shape : Json.Shape :=
  ⟨"WebhookRequest",
   [required "url" decodeText, required "method" decodeText, required "payload" decodeAny,
    required "headers" decodeTextMap]⟩

def ofJson (json : Json) : Except Json.DecodeError WebhookRequest := do
  let fields ← shape.read json
  return {
    url := ← need fields "url" decodeText
    method := ← need fields "method" decodeText
    payload := ← need fields "payload" decodeAny
    headers := ← need fields "headers" decodeTextMap }

def toJson (request : WebhookRequest) : Json :=
  .object [("headers", .object (request.headers.map fun (name, value) => (name, .string value))),
    ("method", .string request.method), ("payload", request.payload),
    ("url", .string request.url)]

end WebhookRequest

end RecordRules
