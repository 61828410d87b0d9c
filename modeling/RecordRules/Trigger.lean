import RecordRules.Record.Basic
import RecordRules.Status

/-!
# Triggers

The event that sets automation off for a record, and the circumstances under which it runs.
-/

namespace RecordRules

/-- Where an event comes from. -/
inductive EventSource where
  | system
  | user (id : String)
  | api
  | scheduler
  | integration (name : String)
  deriving DecidableEq, Repr, Inhabited

/-- The source of a name, with the user or the integration where the name asks for one; the system
when the name is unknown. -/
def EventSource.ofName (name id : String) : EventSource :=
  match name with
  | "user" => .user id
  | "api" => .api
  | "scheduler" => .scheduler
  | "integration" => .integration id
  | _ => .system

def EventSource.text : EventSource → String
  | .system => "System"
  | .user id => "User(" ++ Text.diagnosticQuote id ++ ")"
  | .api => "Api"
  | .scheduler => "Scheduler"
  | .integration name => "Integration(" ++ Text.diagnosticQuote name ++ ")"

/-- An event of a record's life.  The earlier version is known for updates only. -/
structure TriggerEvent where
  eventId : Uuid
  triggerType : TriggerType
  record : Record
  prior : Option Record
  source : EventSource
  correlationId : Option Uuid
  deriving Repr, Inhabited

namespace TriggerEvent

def created (eventId : Uuid) (record : Record) (source : EventSource) : TriggerEvent :=
  ⟨eventId, .onCreate, record, none, source, none⟩

def updated (eventId : Uuid) (prior record : Record) (source : EventSource) : TriggerEvent :=
  ⟨eventId, .onUpdate, record, some prior, source, none⟩

def deleted (eventId : Uuid) (record : Record) (source : EventSource) : TriggerEvent :=
  ⟨eventId, .onDelete, record, none, source, none⟩

def manual (eventId : Uuid) (record : Record) (userId : String) : TriggerEvent :=
  ⟨eventId, .manual, record, none, .user userId, none⟩

def scheduled (eventId : Uuid) (record : Record) : TriggerEvent :=
  ⟨eventId, .scheduled, record, none, .scheduler, none⟩

end TriggerEvent

/-- The circumstances of one run of automation: on whose behalf it runs, and whether it gives up
when cancellation is asked for. -/
structure TriggerContext where
  actingUserId : Option String
  tenantId : Option String
  correlationId : Option Uuid
  cancellable : Bool
  deriving Repr, Inhabited

namespace TriggerContext

/-- Nobody acts, and nothing cancels the run. -/
def detached : TriggerContext := ⟨none, none, none, false⟩

/-- The circumstances that an event tells by itself: the user it comes from, and its correlation,
which is the event's own identifier when none is given. -/
def ofEvent (event : TriggerEvent) : TriggerContext where
  actingUserId :=
    match event.source with
    | .user id => some id
    | _ => none
  tenantId := none
  correlationId := some (event.correlationId.getD event.eventId)
  cancellable := true

end TriggerContext

/-- What one run of automation came to, in numbers. -/
structure TriggerOutcome where
  workflowsEvaluated : Nat
  workflowsMatched : Nat
  workflowsSkipped : Nat
  rulesMatched : Nat
  actionsSucceeded : Nat
  actionsFailed : Nat
  actionsPending : Nat
  cancelled : Bool
  deriving DecidableEq, Repr, Inhabited

namespace TriggerOutcome

/-- Nothing has happened yet. -/
def zero : TriggerOutcome := ⟨0, 0, 0, 0, 0, 0, 0, false⟩

/-- Counts an action by its status; a skipped one does not count. -/
def countAction (outcome : TriggerOutcome) : Status → TriggerOutcome
  | .success => { outcome with actionsSucceeded := outcome.actionsSucceeded + 1 }
  | .pending => { outcome with actionsPending := outcome.actionsPending + 1 }
  | .failed => { outcome with actionsFailed := outcome.actionsFailed + 1 }
  | .skipped => outcome

def toJson (outcome : TriggerOutcome) : Json :=
  .object [("actions_failed", Json.ofNat outcome.actionsFailed),
    ("actions_pending", Json.ofNat outcome.actionsPending),
    ("actions_succeeded", Json.ofNat outcome.actionsSucceeded),
    ("cancelled", .bool outcome.cancelled),
    ("rules_matched", Json.ofNat outcome.rulesMatched),
    ("workflows_evaluated", Json.ofNat outcome.workflowsEvaluated),
    ("workflows_matched", Json.ofNat outcome.workflowsMatched),
    ("workflows_skipped", Json.ofNat outcome.workflowsSkipped)]

end TriggerOutcome

end RecordRules
