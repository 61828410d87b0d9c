import RecordRules.Action.Config
import RecordRules.Action.Kind
import RecordRules.Json.Reader

/-!
# Definitions of actions

What an action does, read once from its kind and its stored configuration.  A configuration that
cannot be read is kept as it is stored, so that the action fails when it is run and loses nothing
when it is saved.
-/

namespace RecordRules

/-- Why a stored action cannot run. -/
inductive ActionFault where
  | unknownKind (tag : String)
  | notJson (error : Json.ReadError)
  | malformed (error : Json.DecodeError)
  | empty (setting : String)
  deriving DecidableEq, Repr

def ActionFault.message : ActionFault → String
  | .unknownKind tag => "unknown action kind: " ++ tag
  | .notJson error => "configuration is not valid JSON: " ++ error.message
  | .malformed error => error.message
  | .empty setting => "'" ++ setting ++ "' cannot be empty"

/-- What an action does. -/
inductive ActionDefinition where
  | updateField (config : UpdateFieldConfig)
  | sendEmail (config : SendEmailConfig)
  | createTask (config : FollowUpConfig)
  | createActivity (config : FollowUpConfig)
  | assignOwner (config : AssignOwnerConfig)
  | sendWebhook (config : SendWebhookConfig)
  | createRecord (config : CreateRecordConfig)
  | updateRelated (config : UpdateRelatedConfig)
  | sendNotification (config : NotificationConfig)
  | sendSms (config : NotificationConfig)
  /-- An action that cannot run, with its tag and configuration as stored; the kind is missing
  when the tag names none. -/
  | invalid (kind : Option ActionKind) (tag : String) (fault : ActionFault) (raw : Json)
  deriving Repr, Inhabited

namespace ActionDefinition

def decode (kind : ActionKind) (config : Json) : Except Json.DecodeError ActionDefinition :=
  match kind with
  | .updateField => (UpdateFieldConfig.ofJson config).map .updateField
  | .sendEmail => (SendEmailConfig.ofJson config).map .sendEmail
  | .createTask => (FollowUpConfig.ofJson config).map .createTask
  | .createActivity => (FollowUpConfig.ofJson config).map .createActivity
  | .assignOwner => (AssignOwnerConfig.ofJson config).map .assignOwner
  | .sendWebhook => (SendWebhookConfig.ofJson config).map .sendWebhook
  | .createRecord => (CreateRecordConfig.ofJson config).map .createRecord
  | .updateRelated => (UpdateRelatedConfig.ofJson config).map .updateRelated
  | .sendNotification => (NotificationConfig.ofJson config).map .sendNotification
  | .sendSms => (NotificationConfig.ofJson config).map .sendSms

def blankSetting (name value : String) : Option String :=
  if Text.isAllBlank value then some name else none

/-- The setting that must not be empty and is. -/
def emptySetting : ActionDefinition → Option String
  | .updateField config => blankSetting "field" config.field
  | .sendEmail config => blankSetting "to" config.recipient
  | .createTask config => blankSetting "subject" config.subject
  | .createActivity config => blankSetting "subject" config.subject
  | .assignOwner config => blankSetting "owner" config.owner
  | .sendWebhook config => blankSetting "url" config.url
  | .createRecord config => blankSetting "record_type" config.recordType
  | .updateRelated config =>
    match blankSetting "related_type" config.relatedType with
    | some name => some name
    | none => if config.fields.isEmpty then some "fields" else none
  | .sendNotification config => blankSetting "message" config.message
  | .sendSms config => blankSetting "message" config.message
  | .invalid _ _ _ _ => none

/-- The definition of a kind with a configuration that is no text. -/
def parseValue (kind : ActionKind) (config : Json) : ActionDefinition :=
  match decode kind config with
  | .error error => .invalid (some kind) kind.name (.malformed error) config
  | .ok definition =>
    match definition.emptySetting with
    | some setting => .invalid (some kind) kind.name (.empty setting) config
    | none => definition

/-- The definition of a kind with its stored configuration.  A text holds the JSON of the
configuration; null is an empty one. -/
def parse (kind : ActionKind) (config : Json) : ActionDefinition :=
  match config with
  | .string s =>
    match Json.parse s with
    | .ok inner => parseValue kind inner
    | .error error => .invalid (some kind) kind.name (.notJson error) config
  | .null => parseValue kind (.object [])
  | other => parseValue kind other

/-- The kind of an action; missing for a tag that names none. -/
def kind : ActionDefinition → Option ActionKind
  | .updateField _ => some .updateField
  | .sendEmail _ => some .sendEmail
  | .createTask _ => some .createTask
  | .createActivity _ => some .createActivity
  | .assignOwner _ => some .assignOwner
  | .sendWebhook _ => some .sendWebhook
  | .createRecord _ => some .createRecord
  | .updateRelated _ => some .updateRelated
  | .sendNotification _ => some .sendNotification
  | .sendSms _ => some .sendSms
  | .invalid kind _ _ _ => kind

def tag : ActionDefinition → String
  | .invalid _ tag _ _ => tag
  | definition => (definition.kind.map ActionKind.name).getD ""

def toConfig : ActionDefinition → Json
  | .updateField config => config.toJson
  | .sendEmail config => config.toJson
  | .createTask config => config.toJson
  | .createActivity config => config.toJson
  | .assignOwner config => config.toJson
  | .sendWebhook config => config.toJson
  | .createRecord config => config.toJson
  | .updateRelated config => config.toJson
  | .sendNotification config => config.toJson
  | .sendSms config => config.toJson
  | .invalid _ _ _ raw => raw

end ActionDefinition

end RecordRules
