import RecordRules.Status

/-!
# Entries of the execution log

One entry of the audit trail of automation: the outcome of a workflow, of one of its rules, or of
one action.  The level of an entry is told by the identifiers it carries; they may outlive what
they point at.
-/

namespace RecordRules

/-- What an entry of the log is about. -/
inductive LogLevel where
  | workflow
  | rule
  | action
  deriving DecidableEq, Repr

def LogLevel.name : LogLevel → String
  | .workflow => "workflow"
  | .rule => "rule"
  | .action => "action"

/-- One entry of the execution log. -/
structure LogEntry where
  id : Uuid
  workflowId : Uuid
  ruleId : Option Uuid
  actionId : Option Uuid
  recordType : String
  recordId : String
  status : Status
  errorMessage : Option String
  details : Option String
  durationMs : Int
  executedAt : Time.Instant
  deriving Repr, Inhabited

namespace LogEntry

def ofWorkflow (id workflowId : Uuid) (recordType recordId : String) (status : Status)
    (executedAt : Time.Instant) : LogEntry where
  id := id
  workflowId := workflowId
  ruleId := none
  actionId := none
  recordType := recordType
  recordId := recordId
  status := status
  errorMessage := none
  details := none
  durationMs := 0
  executedAt := executedAt

def forRule (entry : LogEntry) (ruleId : Uuid) : LogEntry := { entry with ruleId := some ruleId }

/-- The entry as one about an action of a rule. -/
def forAction (entry : LogEntry) (ruleId actionId : Uuid) : LogEntry :=
  { entry with ruleId := some ruleId, actionId := some actionId }

def withError (entry : LogEntry) (message : String) : LogEntry :=
  { entry with errorMessage := some message }

def withDetails (entry : LogEntry) (details : String) : LogEntry :=
  { entry with details := some details }

def withDuration (entry : LogEntry) (durationMs : Int) : LogEntry := { entry with durationMs }

/-- What the entry is about: an action if it names one, else a rule if it names one. -/
def level (entry : LogEntry) : LogLevel :=
  if entry.actionId.isSome then .action
  else if entry.ruleId.isSome then .rule
  else .workflow

open Json (required need orElse decodeText decodeInt64 decodeOption decodeId decodeInstant)

def shape : Json.Shape :=
  ⟨"ExecutionLog",
   [required "id" decodeId, required "workflow_id" decodeId,
    required "rule_id" (decodeOption decodeId), required "action_id" (decodeOption decodeId),
    required "record_type" decodeText, required "record_id" decodeText,
    required "status" Status.ofJson, required "error_message" (decodeOption decodeText),
    required "details" (decodeOption decodeText), required "duration_ms" decodeInt64,
    required "executed_at" decodeInstant]⟩

def ofJson (json : Json) : Except Json.DecodeError LogEntry := do
  let fields ← shape.read json
  return {
    id := ← need fields "id" decodeId
    workflowId := ← need fields "workflow_id" decodeId
    ruleId := ← orElse fields "rule_id" none (decodeOption decodeId)
    actionId := ← orElse fields "action_id" none (decodeOption decodeId)
    recordType := ← need fields "record_type" decodeText
    recordId := ← need fields "record_id" decodeText
    status := ← need fields "status" Status.ofJson
    errorMessage := ← orElse fields "error_message" none (decodeOption decodeText)
    details := ← orElse fields "details" none (decodeOption decodeText)
    durationMs := ← need fields "duration_ms" decodeInt64
    executedAt := ← need fields "executed_at" decodeInstant }

def toJson (entry : LogEntry) : Json :=
  .object [("action_id", Json.ofOption Uuid.toJson entry.actionId),
    ("details", Json.ofText? entry.details), ("duration_ms", .int entry.durationMs),
    ("error_message", Json.ofText? entry.errorMessage),
    ("executed_at", entry.executedAt.toJson), ("id", entry.id.toJson),
    ("record_id", .string entry.recordId), ("record_type", .string entry.recordType),
    ("rule_id", Json.ofOption Uuid.toJson entry.ruleId), ("status", entry.status.toJson),
    ("workflow_id", entry.workflowId.toJson)]

end LogEntry

end RecordRules
