import RecordRules.Engine.Basic

/-!
# Ticks of scheduled workflows

A scheduled workflow runs over every record of its type.  It is loaded at each tick, so that what
was changed or switched off in the meantime counts.
-/

namespace RecordRules

/-- What a tick came to, in numbers. -/
structure TickResult where
  recordsChecked : Nat
  recordsMatched : Nat
  actionsFailed : Nat
  deriving DecidableEq, Repr, Inhabited

namespace TickResult

/-- Nothing was to be done. -/
def zero : TickResult := ⟨0, 0, 0⟩

/-- Counts what the run on one record came to. -/
def add (result : TickResult) (outcome : TriggerOutcome) : TickResult where
  recordsChecked := result.recordsChecked
  recordsMatched :=
    if 0 < outcome.workflowsMatched then result.recordsMatched + 1 else result.recordsMatched
  actionsFailed := result.actionsFailed + outcome.actionsFailed

def runAll (engine : Engine) (workflow : Workflow) (result : TickResult) :
    List Record → Run Host TickResult
  | [] => pure result
  | record :: rest => do
    let (outcome, _) ← engine.processWorkflow workflow record .scheduled .detached
    runAll engine workflow (result.add outcome) rest

/-- Is the workflow still to be run by its schedule? -/
def isDue (workflow : Workflow) : Bool := workflow.isActive && workflow.triggerType == .scheduled

/-- Runs a workflow over every record of its type. -/
def run (engine : Engine) (id : Uuid) : Attempt TickResult := do
  match (← Host.loadWorkflow id).filter isDue with
  | none => return zero
  | some workflow =>
    let records ← Host.loadRecords workflow.recordType
    Host.answer (runAll engine workflow ⟨records.length, 0, 0⟩ records)

def toJson (result : TickResult) : Json :=
  .object [("actions_failed", Json.ofNat result.actionsFailed),
    ("records_checked", Json.ofNat result.recordsChecked),
    ("records_matched", Json.ofNat result.recordsMatched)]

end TickResult

end RecordRules
