import RecordRules.Json.Decode

/-!
# Outcomes and triggers

The outcome of an attempt to run a workflow, a rule or an action, and the events of a record's
life that set workflows off.
-/

namespace RecordRules

/-- The outcome of an attempt. -/
inductive Status where
  | success
  | failed
  | skipped
  | pending
  deriving DecidableEq, Repr, Inhabited

namespace Status

def label : Status → String
  | .success => "success"
  | .failed => "failed"
  | .skipped => "skipped"
  | .pending => "pending"

def name : Status → String
  | .success => "Success"
  | .failed => "Failed"
  | .skipped => "Skipped"
  | .pending => "Pending"

def toJson (status : Status) : Json := .string status.name

def ofJson : Json → Except Json.DecodeError Status :=
  Json.decodeVariant
    [("Success", .success), ("Failed", .failed), ("Skipped", .skipped), ("Pending", .pending)]

end Status

/-- The event of a record's life that sets a workflow off. -/
inductive TriggerType where
  | onCreate
  | onUpdate
  | onDelete
  | scheduled
  | manual
  deriving DecidableEq, Repr, Inhabited

namespace TriggerType

def label : TriggerType → String
  | .onCreate => "on_create"
  | .onUpdate => "on_update"
  | .onDelete => "on_delete"
  | .scheduled => "scheduled"
  | .manual => "manual"

def name : TriggerType → String
  | .onCreate => "OnCreate"
  | .onUpdate => "OnUpdate"
  | .onDelete => "OnDelete"
  | .scheduled => "Scheduled"
  | .manual => "Manual"

def toJson (trigger : TriggerType) : Json := .string trigger.name

/-- The names under which trigger types are stored. -/
def variants : List (String × TriggerType) :=
  [("OnCreate", .onCreate), ("on_create", .onCreate), ("OnUpdate", .onUpdate),
   ("on_update", .onUpdate), ("OnDelete", .onDelete), ("on_delete", .onDelete),
   ("Scheduled", .scheduled), ("scheduled", .scheduled), ("Manual", .manual),
   ("manual", .manual)]

def ofJson : Json → Except Json.DecodeError TriggerType := Json.decodeVariant variants

/-- A spelling in lower case without underscores. -/
def normalize (raw : String) : String := Text.without (· == '_') (Text.asciiLower raw)

/-- The trigger type of a spelling; an unknown one is reported in its normal form. -/
def read (raw : String) : Except String TriggerType :=
  let spelling := normalize raw
  let known := [("oncreate", TriggerType.onCreate), ("onupdate", .onUpdate),
    ("ondelete", .onDelete), ("scheduled", .scheduled), ("manual", .manual)]
  match known.find? fun entry => entry.1 == spelling with
  | some (_, trigger) => .ok trigger
  | none => .error ("unknown trigger type: " ++ spelling)

end TriggerType

end RecordRules
