import RecordRules.Action.Definition

/-!
# Actions

An action with its place in a rule, and the row in which it is stored: a kind tag with a
configuration of any form.  Storing an action and loading it again goes through that row.
-/

namespace RecordRules

/-- Decoding that may draw identifiers for values that bring none. -/
abbrev Minting (α : Type) := StateT IdSupply (Except Json.DecodeError) α

def mintId : Minting Uuid := fun supply => .ok supply.draw

/-- The identifier of a picked field, or a new one. -/
def idOrMint (fields : Fields) (name : String) : Minting Uuid :=
  match Fields.get? name fields with
  | some value => Json.decodeId value
  | none => mintId

/-- What a decoder that draws identifiers says of a value. -/
def mintRefusal (decode : Json → Minting α) (json : Json) : Option Json.DecodeError :=
  Json.refusal (fun value => (decode value).run ⟨0⟩) json

/-- A sequence of values, decoded in order. -/
def decodeMinted (decode : Json → Minting α) : Json → Minting (List α)
  | .array items => items.mapM decode
  | json => fun _ => Json.mismatch "a sequence" json

/-- The stored form of an action. -/
structure StoredAction where
  id : Uuid
  ruleId : Uuid
  name : String
  kind : String
  executionOrder : Int
  config : Json
  delayMinutes : Int
  isActive : Bool
  deriving Repr, Inhabited

namespace StoredAction

open Json (required defaulted need orElse decodeText decodeBool decodeInt32 decodeAny decodeId)

def shape : Json.Shape :=
  ⟨"StoredAction",
   [defaulted "id" decodeId, defaulted "rule_id" decodeId, required "name" decodeText,
    required "kind" decodeText, defaulted "execution_order" decodeInt32,
    defaulted "config" decodeAny, defaulted "delay_minutes" decodeInt32,
    defaulted "is_active" decodeBool]⟩

def ofJson (json : Json) : Minting StoredAction := do
  let fields ← shape.read json
  return {
    id := ← idOrMint fields "id"
    ruleId := ← orElse fields "rule_id" Uuid.nil decodeId
    name := ← need fields "name" decodeText
    kind := ← need fields "kind" decodeText
    executionOrder := ← orElse fields "execution_order" 0 decodeInt32
    config := ← orElse fields "config" .null decodeAny
    delayMinutes := ← orElse fields "delay_minutes" 0 decodeInt32
    isActive := ← orElse fields "is_active" true decodeBool }

def toJson (row : StoredAction) : Json :=
  .object [("config", row.config), ("delay_minutes", .int row.delayMinutes),
    ("execution_order", .int row.executionOrder), ("id", .string row.id.text),
    ("is_active", .bool row.isActive), ("kind", .string row.kind), ("name", .string row.name),
    ("rule_id", .string row.ruleId.text)]

end StoredAction

/-- An action of a rule; a delay puts its effect off by so many minutes. -/
structure Action where
  id : Uuid
  ruleId : Uuid
  name : String
  executionOrder : Int
  definition : ActionDefinition
  delayMinutes : Int
  isActive : Bool
  deriving Repr, Inhabited

namespace Action

/-- The definition of a stored action; one of unknown kind is kept to fail when it is run. -/
def definitionOf (row : StoredAction) : ActionDefinition :=
  match ActionKind.ofTag? row.kind with
  | some kind => ActionDefinition.parse kind row.config
  | none => .invalid none row.kind (.unknownKind row.kind) row.config

def ofStored (row : StoredAction) : Action where
  id := row.id
  ruleId := row.ruleId
  name := row.name
  executionOrder := row.executionOrder
  definition := definitionOf row
  delayMinutes := row.delayMinutes
  isActive := row.isActive

def toStored (action : Action) : StoredAction where
  id := action.id
  ruleId := action.ruleId
  name := action.name
  kind := action.definition.tag
  executionOrder := action.executionOrder
  config := action.definition.toConfig
  delayMinutes := action.delayMinutes
  isActive := action.isActive

def ofJson (json : Json) : Minting Action := do
  return ofStored (← StoredAction.ofJson json)

def toJson (action : Action) : Json := action.toStored.toJson

/-- An active action without delay, the first in order, under a given identifier. -/
def ofDefinition (id : Uuid) (name : String) (definition : ActionDefinition) : Action :=
  ⟨id, Uuid.nil, name, 0, definition, 0, true⟩

/-- The action of a kind with a configuration in JSON. -/
def ofConfig (id : Uuid) (name : String) (kind : ActionKind) (config : Json) : Action :=
  ofDefinition id name (.parse kind config)

def updateField (id : Uuid) (field value : String) : Action :=
  ofDefinition id ("Set " ++ field) (.updateField ⟨field, value⟩)

def sendEmail (id : Uuid) (recipient subject body : String) : Action :=
  ofDefinition id "Send Email" (.sendEmail ⟨recipient, subject, body, false⟩)

def createTask (id : Uuid) (subject : String) (dueDate : Option String) : Action :=
  ofDefinition id "Create Task"
    (.createTask ⟨subject, none, none, FollowUpConfig.defaultPriority, dueDate, none⟩)

def createActivity (id : Uuid) (subject activityType : String) : Action :=
  ofDefinition id "Create Activity"
    (.createActivity
      ⟨subject, none, some activityType, FollowUpConfig.defaultPriority, none, none⟩)

def assignOwner (id : Uuid) (owner : String) : Action :=
  ofDefinition id "Assign Owner" (.assignOwner ⟨owner⟩)

def sendWebhook (id : Uuid) (url : String) (payload : Option Json) : Action :=
  ofDefinition id "Send Webhook"
    (.sendWebhook ⟨url, SendWebhookConfig.defaultMethod, payload, []⟩)

def createRecord (id : Uuid) (recordType : String) (fields : Fields) : Action :=
  ofDefinition id ("Create " ++ recordType) (.createRecord ⟨recordType, fields⟩)

def updateRelated (id : Uuid) (relatedType : String) (fields : Fields) : Action :=
  ofDefinition id ("Update related " ++ relatedType) (.updateRelated ⟨relatedType, none, fields⟩)

def sendNotification (id : Uuid) (recipient : Option String) (title message : String) : Action :=
  ofDefinition id "Send Notification"
    (.sendNotification ⟨recipient, some title, message, none⟩)

def sendSms (id : Uuid) (recipient : Option String) (message : String) : Action :=
  ofDefinition id "Send SMS" (.sendSms ⟨recipient, none, message, none⟩)

end Action

end RecordRules
