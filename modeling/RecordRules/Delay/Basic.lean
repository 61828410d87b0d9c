import RecordRules.Json.Decode

/-!
# Delayed actions

The order to run an action at a later time, against the record as it was when the order was given.
-/

namespace RecordRules

/-- An action put off: which action, with whom acting, on which snapshot, and when. -/
structure DelayedAction where
  id : Uuid
  actionId : Uuid
  ruleId : Uuid
  workflowId : Uuid
  recordType : String
  recordId : String
  recordSnapshot : Json
  actingUserId : Option String
  tenantId : Option String
  runAt : Time.Instant
  createdAt : Time.Instant
  deriving Repr, Inhabited

namespace DelayedAction

open Json (required need orElse decodeText decodeOption decodeAny decodeId decodeInstant)

def shape : Json.Shape :=
  ⟨"DelayedAction",
   [required "id" decodeId, required "action_id" decodeId, required "rule_id" decodeId,
    required "workflow_id" decodeId, required "record_type" decodeText,
    required "record_id" decodeText, required "record_snapshot" decodeAny,
    required "acting_user_id" (decodeOption decodeText),
    required "tenant_id" (decodeOption decodeText), required "run_at" decodeInstant,
    required "created_at" decodeInstant]⟩

def ofJson (json : Json) : Except Json.DecodeError DelayedAction := do
  let fields ← shape.read json
  return {
    id := ← need fields "id" decodeId
    actionId := ← need fields "action_id" decodeId
    ruleId := ← need fields "rule_id" decodeId
    workflowId := ← need fields "workflow_id" decodeId
    recordType := ← need fields "record_type" decodeText
    recordId := ← need fields "record_id" decodeText
    recordSnapshot := ← need fields "record_snapshot" decodeAny
    actingUserId := ← orElse fields "acting_user_id" none (decodeOption decodeText)
    tenantId := ← orElse fields "tenant_id" none (decodeOption decodeText)
    runAt := ← need fields "run_at" decodeInstant
    createdAt := ← need fields "created_at" decodeInstant }

def toJson (delayed : DelayedAction) : Json :=
  .object [("acting_user_id", Json.ofText? delayed.actingUserId),
    ("action_id", delayed.actionId.toJson), ("created_at", delayed.createdAt.toJson),
    ("id", delayed.id.toJson), ("record_id", .string delayed.recordId),
    ("record_snapshot", delayed.recordSnapshot), ("record_type", .string delayed.recordType),
    ("rule_id", delayed.ruleId.toJson), ("run_at", delayed.runAt.toJson),
    ("tenant_id", Json.ofText? delayed.tenantId), ("workflow_id", delayed.workflowId.toJson)]

end DelayedAction

end RecordRules
