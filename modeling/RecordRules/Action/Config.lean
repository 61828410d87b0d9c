import RecordRules.Json.Decode
import RecordRules.Json.Printer

/-!
# Configurations of actions

One structure for each shape of configuration, with its JSON form.  Optional settings may be
missing, some settings have further names, and a field's value may be any scalar.
-/

namespace RecordRules

/-- Write a literal to a field. -/
structure UpdateFieldConfig where
  field : String
  value : String
  deriving DecidableEq, Repr, Inhabited

/-- Send an email to an address, a user or what a placeholder gives. -/
structure SendEmailConfig where
  recipient : String
  subject : String
  body : String
  isHtml : Bool
  deriving DecidableEq, Repr, Inhabited

/-- Create a task or an activity. -/
structure FollowUpConfig where
  subject : String
  description : Option String
  followUpType : Option String
  priority : String
  dueDate : Option String
  assignedTo : Option String
  deriving DecidableEq, Repr, Inhabited

/-- Give the record an owner. -/
structure AssignOwnerConfig where
  owner : String
  deriving DecidableEq, Repr, Inhabited

/-- Call a web address; without a payload the record itself is sent. -/
structure SendWebhookConfig where
  url : String
  method : String
  payload : Option Json
  headers : List (String × String)
  deriving Repr, Inhabited

/-- Create a record. -/
structure CreateRecordConfig where
  recordType : String
  fields : Fields
  deriving Repr, Inhabited

/-- Overwrite fields of the records that point back at the record. -/
structure UpdateRelatedConfig where
  relatedType : String
  linkField : Option String
  fields : Fields
  deriving Repr, Inhabited

/-- Notify a user, the acting one when no recipient is given. -/
structure NotificationConfig where
  recipient : Option String
  title : Option String
  message : String
  channels : Option String
  deriving DecidableEq, Repr, Inhabited

open Json (required defaulted need orElse decodeText decodeBool decodeOption decodeFields
  decodeAny decodeTextMap)

abbrev decodeText? : Json → Except Json.DecodeError (Option String) := decodeOption decodeText

namespace UpdateFieldConfig

def shape : Json.Shape :=
  ⟨"UpdateFieldConfig", [required "field" decodeText, required "value" decodeAny]⟩

def ofJson (json : Json) : Except Json.DecodeError UpdateFieldConfig := do
  let fields ← shape.read json
  return {
    field := ← need fields "field" decodeText
    value := (← need fields "value" decodeAny).text?.getD "" }

def toJson (config : UpdateFieldConfig) : Json :=
  .object [("field", .string config.field), ("value", .string config.value)]

end UpdateFieldConfig

namespace SendEmailConfig

def shape : Json.Shape :=
  ⟨"SendEmailConfig",
   [required "to" decodeText, required "subject" decodeText, required "body" decodeText,
    defaulted "is_html" decodeBool]⟩

def ofJson (json : Json) : Except Json.DecodeError SendEmailConfig := do
  let fields ← shape.read json
  return {
    recipient := ← need fields "to" decodeText
    subject := ← need fields "subject" decodeText
    body := ← need fields "body" decodeText
    isHtml := ← orElse fields "is_html" false decodeBool }

def toJson (config : SendEmailConfig) : Json :=
  .object [("body", .string config.body), ("is_html", .bool config.isHtml),
    ("subject", .string config.subject), ("to", .string config.recipient)]

end SendEmailConfig

namespace FollowUpConfig

/-- The priority of a follow-up that names none. -/
def defaultPriority : String := "Normal"

def shape : Json.Shape :=
  ⟨"FollowUpConfig",
   [required "subject" decodeText, defaulted "description" decodeText?,
    (defaulted "type" decodeText?).orNamed ["task_type", "activity_type"],
    defaulted "priority" decodeText, defaulted "due_date" decodeText?,
    defaulted "assigned_to" decodeText?]⟩

def ofJson (json : Json) : Except Json.DecodeError FollowUpConfig := do
  let fields ← shape.read json
  return {
    subject := ← need fields "subject" decodeText
    description := ← orElse fields "description" none decodeText?
    followUpType := ← orElse fields "type" none decodeText?
    priority := ← orElse fields "priority" defaultPriority decodeText
    dueDate := ← orElse fields "due_date" none decodeText?
    assignedTo := ← orElse fields "assigned_to" none decodeText? }

def toJson (config : FollowUpConfig) : Json :=
  .object [("assigned_to", Json.ofText? config.assignedTo),
    ("description", Json.ofText? config.description), ("due_date", Json.ofText? config.dueDate),
    ("priority", .string config.priority), ("subject", .string config.subject),
    ("type", Json.ofText? config.followUpType)]

end FollowUpConfig

namespace AssignOwnerConfig

def shape : Json.Shape :=
  ⟨"AssignOwnerConfig", [(required "owner" decodeText).orNamed ["owner_id", "user_id"]]⟩

def ofJson (json : Json) : Except Json.DecodeError AssignOwnerConfig := do
  let fields ← shape.read json
  return { owner := ← need fields "owner" decodeText }

def toJson (config : AssignOwnerConfig) : Json := .object [("owner", .string config.owner)]

end AssignOwnerConfig

namespace SendWebhookConfig

/-- The method of a call that names none. -/
def defaultMethod : String := "POST"

def shape : Json.Shape :=
  ⟨"SendWebhookConfig",
   [required "url" decodeText, defaulted "method" decodeText,
    defaulted "payload" (decodeOption decodeAny), defaulted "headers" decodeTextMap]⟩

def ofJson (json : Json) : Except Json.DecodeError SendWebhookConfig := do
  let fields ← shape.read json
  return {
    url := ← need fields "url" decodeText
    method := ← orElse fields "method" defaultMethod decodeText
    payload := ← orElse fields "payload" none (decodeOption decodeAny)
    headers := ← orElse fields "headers" [] decodeTextMap }

def toJson (config : SendWebhookConfig) : Json :=
  .object [("headers", .object (config.headers.map fun (name, value) => (name, .string value))),
    ("method", .string config.method), ("payload", config.payload.getD .null),
    ("url", .string config.url)]

end SendWebhookConfig

namespace CreateRecordConfig

def shape : Json.Shape :=
  ⟨"CreateRecordConfig", [required "record_type" decodeText, defaulted "fields" decodeFields]⟩

def ofJson (json : Json) : Except Json.DecodeError CreateRecordConfig := do
  let fields ← shape.read json
  return {
    recordType := ← need fields "record_type" decodeText
    fields := ← orElse fields "fields" [] decodeFields }

def toJson (config : CreateRecordConfig) : Json :=
  .object [("fields", .object config.fields), ("record_type", .string config.recordType)]

end CreateRecordConfig

namespace UpdateRelatedConfig

def shape : Json.Shape :=
  ⟨"UpdateRelatedConfig",
   [required "related_type" decodeText, defaulted "link_field" decodeText?,
    required "fields" decodeFields]⟩

def ofJson (json : Json) : Except Json.DecodeError UpdateRelatedConfig := do
  let fields ← shape.read json
  return {
    relatedType := ← need fields "related_type" decodeText
    linkField := ← orElse fields "link_field" none decodeText?
    fields := ← need fields "fields" decodeFields }

def toJson (config : UpdateRelatedConfig) : Json :=
  .object [("fields", .object config.fields), ("link_field", Json.ofText? config.linkField),
    ("related_type", .string config.relatedType)]

end UpdateRelatedConfig

namespace NotificationConfig

def shape : Json.Shape :=
  ⟨"NotificationConfig",
   [(defaulted "recipient" decodeText?).orNamed ["user_id"], defaulted "title" decodeText?,
    required "message" decodeText, defaulted "channels" decodeText?]⟩

def ofJson (json : Json) : Except Json.DecodeError NotificationConfig := do
  let fields ← shape.read json
  return {
    recipient := ← orElse fields "recipient" none decodeText?
    title := ← orElse fields "title" none decodeText?
    message := ← need fields "message" decodeText
    channels := ← orElse fields "channels" none decodeText? }

def toJson (config : NotificationConfig) : Json :=
  .object [("channels", Json.ofText? config.channels), ("message", .string config.message),
    ("recipient", Json.ofText? config.recipient), ("title", Json.ofText? config.title)]

end NotificationConfig

end RecordRules
