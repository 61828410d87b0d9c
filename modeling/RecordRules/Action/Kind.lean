import RecordRules.Json.Decode

/-!
# Kinds of actions

The closed catalogue of effects that a rule can have.
-/

namespace RecordRules

/-- The kind of effect that an action has. -/
inductive ActionKind where
  | updateField
  | sendEmail
  | createTask
  | createActivity
  | assignOwner
  | sendWebhook
  | createRecord
  | updateRelated
  | sendNotification
  | sendSms
  deriving DecidableEq, Repr, Inhabited

namespace ActionKind

def name : ActionKind → String
  | .updateField => "UpdateField"
  | .sendEmail => "SendEmail"
  | .createTask => "CreateTask"
  | .createActivity => "CreateActivity"
  | .assignOwner => "AssignOwner"
  | .sendWebhook => "SendWebhook"
  | .createRecord => "CreateRecord"
  | .updateRelated => "UpdateRelated"
  | .sendNotification => "SendNotification"
  | .sendSms => "SendSms"

/-- The catalogue in order. -/
def all : List ActionKind :=
  [.updateField, .sendEmail, .createTask, .createActivity, .assignOwner, .sendWebhook,
   .createRecord, .updateRelated, .sendNotification, .sendSms]

def toJson (kind : ActionKind) : Json := .string kind.name

def ofJson : Json → Except Json.DecodeError ActionKind :=
  Json.decodeVariant (all.map fun kind => (kind.name, kind))

/-- A tag without blanks at its ends and underscores, in lower case. -/
def normalize (raw : String) : String :=
  Text.asciiLower (Text.without (· == '_') (Text.trim raw))

def ofTag? (raw : String) : Option ActionKind :=
  all.find? fun kind => Text.asciiLower kind.name == normalize raw

/-- The kind that a stored tag names, or what is said of an unknown one. -/
def read (raw : String) : Except String ActionKind :=
  match ofTag? raw with
  | some kind => .ok kind
  | none => .error ("unknown action kind: " ++ raw)

end ActionKind

end RecordRules
