import RecordRules.Json.Decode

/-!
# Follow-ups

The tasks and activities that automation creates, linked back to the record that set it off.
-/

namespace RecordRules

/-- Whether a follow-up is a task or an activity. -/
inductive FollowUpKind where
  | task
  | activity
  deriving DecidableEq, Repr, Inhabited

namespace FollowUpKind

def name : FollowUpKind → String
  | .task => "Task"
  | .activity => "Activity"

def label : FollowUpKind → String
  | .task => "task"
  | .activity => "activity"

def toJson (kind : FollowUpKind) : Json := .string kind.name

def ofJson : Json → Except Json.DecodeError FollowUpKind :=
  Json.decodeVariant [("Task", .task), ("Activity", .activity)]

end FollowUpKind

/-- A task or an activity; the link field is where it keeps the identifier of the record. -/
structure FollowUp where
  id : Uuid
  kind : FollowUpKind
  subject : String
  description : Option String
  followUpType : Option String
  priority : String
  dueAt : Option Time.Instant
  assignedTo : Option String
  linkField : String
  linkedRecordId : String
  createdBy : Option String
  createdAt : Time.Instant
  deriving Repr, Inhabited

namespace FollowUp

open Json (required need orElse decodeText decodeOption decodeId decodeInstant)

def shape : Json.Shape :=
  ⟨"FollowUp",
   [required "id" decodeId, required "kind" FollowUpKind.ofJson, required "subject" decodeText,
    required "description" (decodeOption decodeText),
    required "follow_up_type" (decodeOption decodeText), required "priority" decodeText,
    required "due_at" (decodeOption decodeInstant),
    required "assigned_to" (decodeOption decodeText), required "link_field" decodeText,
    required "linked_record_id" decodeText, required "created_by" (decodeOption decodeText),
    required "created_at" decodeInstant]⟩

def ofJson (json : Json) : Except Json.DecodeError FollowUp := do
  let fields ← shape.read json
  return {
    id := ← need fields "id" decodeId
    kind := ← need fields "kind" FollowUpKind.ofJson
    subject := ← need fields "subject" decodeText
    description := ← orElse fields "description" none (decodeOption decodeText)
    followUpType := ← orElse fields "follow_up_type" none (decodeOption decodeText)
    priority := ← need fields "priority" decodeText
    dueAt := ← orElse fields "due_at" none (decodeOption decodeInstant)
    assignedTo := ← orElse fields "assigned_to" none (decodeOption decodeText)
    linkField := ← need fields "link_field" decodeText
    linkedRecordId := ← need fields "linked_record_id" decodeText
    createdBy := ← orElse fields "created_by" none (decodeOption decodeText)
    createdAt := ← need fields "created_at" decodeInstant }

def toJson (followUp : FollowUp) : Json :=
  .object [("assigned_to", Json.ofText? followUp.assignedTo),
    ("created_at", followUp.createdAt.toJson), ("created_by", Json.ofText? followUp.createdBy),
    ("description", Json.ofText? followUp.description),
    ("due_at", Json.ofOption Time.Instant.toJson followUp.dueAt),
    ("follow_up_type", Json.ofText? followUp.followUpType), ("id", followUp.id.toJson),
    ("kind", followUp.kind.toJson), ("link_field", .string followUp.linkField),
    ("linked_record_id", .string followUp.linkedRecordId),
    ("priority", .string followUp.priority), ("subject", .string followUp.subject)]

end FollowUp

end RecordRules
