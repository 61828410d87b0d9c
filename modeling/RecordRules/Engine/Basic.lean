import RecordRules.Engine.Session
import RecordRules.Condition.Evaluate

/-!
# The engine

The event of a record selects workflows, the conditions of their rules decide what matched, and
the actions of those rules have the effects.  Nothing that goes wrong leaves a run: it becomes an
entry of the log.  Within a workflow each action writes an entry, each matched rule one after its
actions, and the workflow one at the end.
-/

namespace RecordRules

/-- The master switch of automation; an engine that is off does nothing. -/
structure Engine where
  enabled : Bool
  deriving DecidableEq, Repr, Inhabited

/-- How many actions of a rule succeeded, failed and were put off. -/
structure RuleTally where
  succeeded : Nat
  failed : Nat
  pending : Nat
  deriving DecidableEq, Repr, Inhabited

namespace RuleTally

def zero : RuleTally := ⟨0, 0, 0⟩

/-- Counts one more action. -/
def add (tally : RuleTally) : Status → RuleTally
  | .success => { tally with succeeded := tally.succeeded + 1 }
  | .pending => { tally with pending := tally.pending + 1 }
  | .failed => { tally with failed := tally.failed + 1 }
  | .skipped => { tally with failed := tally.failed + 1 }

def total (tally : RuleTally) : Nat := tally.succeeded + tally.failed + tally.pending

def status (tally : RuleTally) : Status := if 0 < tally.failed then .failed else .success

def details (tally : RuleTally) : String :=
  Number.natText (tally.succeeded + tally.pending) ++ " of " ++ Number.natText tally.total
    ++ " actions succeeded (" ++ Number.natText tally.pending ++ " pending)"

/-- What the log says of failures. -/
def failureText (tally : RuleTally) : String :=
  Number.natText tally.failed ++ " of " ++ Number.natText tally.total ++ " actions failed"

end RuleTally

/-- How many rules of a workflow matched, and how many of those had failures. -/
structure RulesTally where
  matched : Nat
  failed : Nat
  deriving DecidableEq, Repr, Inhabited

/-- How the evaluation of a workflow ended. -/
inductive WorkflowRun where
  | skipped
  | noMatch
  | matched
  | cancelled
  deriving DecidableEq, Repr

namespace Engine

/-- Details of an entry with the correlation of the run, if it is known. -/
def correlated (details : String) (context : TriggerContext) : String :=
  match context.correlationId with
  | some id => details ++ " [correlation " ++ id.text ++ "]"
  | none => details

/-- Writes an entry about a workflow and the session's record. -/
def log (workflowId : Uuid) (status : Status) (complete : LogEntry → LogEntry) :
    Run Session Unit := do
  let record ← Run.gets Session.record
  let entry ← Session.onHost (newEntry workflowId record.recordType record.id status)
  Session.remember (.logged (complete entry))
  Session.onHost (writeLog (complete entry))

def isCancelled (context : TriggerContext) : Run Session Bool := do
  let answer ← Session.onHost (Host.isCancelled context)
  Session.remember (.asked answer)
  return answer

/-- Runs actions of a rule one after another; there is no tally if the run is cancelled. -/
def runActions (workflowId ruleId : Uuid) (context : TriggerContext) (tally : RuleTally) :
    List Action → Run Session (Option RuleTally)
  | [] => pure (some tally)
  | action :: rest => do
    if ← isCancelled context then return none
    let result ← Session.execute action (.ofTrigger workflowId ruleId context)
    log workflowId result.status fun entry =>
      (entry.forAction ruleId action.id).withResult result
    runActions workflowId ruleId context (tally.add result.status) rest

/-- The entry about a rule, from the tally of its actions. -/
def ruleEntry (ruleId : Uuid) (tally : RuleTally) (entry : LogEntry) : LogEntry :=
  let entry := (entry.forRule ruleId).withDetails tally.details
  if 0 < tally.failed then entry.withError tally.failureText else entry

/-- Runs the actions of a rule that matched and closes it with an entry; there is no tally if the
run is cancelled. -/
def runRule (workflowId : Uuid) (context : TriggerContext) (rule : Rule) :
    Run Session (Option RuleTally) := do
  Session.count fun outcome => { outcome with rulesMatched := outcome.rulesMatched + 1 }
  match ← runActions workflowId rule.id context .zero rule.activeActions with
  | none => return none
  | some done =>
    log workflowId done.status (ruleEntry rule.id done)
    return some done

/-- Evaluates rules one after another; there is no tally if the run is cancelled. -/
def runRules (workflowId : Uuid) (prior : Option Record) (context : TriggerContext)
    (tally : RulesTally) : List Rule → Run Session (Option RulesTally)
  | [] => pure (some tally)
  | rule :: rest => do
    if ← isCancelled context then return none
    let record ← Run.gets Session.record
    let holds := Condition.listHolds rule.conditions rule.logic record prior
    Session.remember (.weighed rule holds)
    if holds then
      match ← runRule workflowId context rule with
      | none => return none
      | some done =>
        runRules workflowId prior context
          ⟨tally.matched + 1, if 0 < done.failed then tally.failed + 1 else tally.failed⟩ rest
    else runRules workflowId prior context tally rest

/-- Does the monitoring of fields let an update through?  One of them must have another text than
in the earlier version. -/
def isTriggeredBy (workflow : Workflow) (trigger : TriggerType) (record : Record)
    (prior : Option Record) : Bool :=
  if trigger = .onUpdate ∧ workflow.triggerFields ≠ [] then
    match prior with
    | some prior => !(record.changedFields prior workflow.triggerFields).isEmpty
    | none => false
  else true

/-- The details of a workflow that no change of a monitored field has set off. -/
def unchangedText (workflow : Workflow) : String :=
  "none of the monitored fields changed (" ++ Text.join ", " workflow.triggerFields ++ ")"

/-- Closes the evaluation of a workflow whose rules have all been looked at. -/
def finish (workflow : Workflow) (context : TriggerContext) (tally : RulesTally) :
    Run Session WorkflowRun := do
  if tally.matched = 0 then
    log workflow.id .skipped fun entry =>
      entry.withDetails (correlated "no rules matched" context)
    return .noMatch
  else
    Session.count fun outcome =>
      { outcome with workflowsMatched := outcome.workflowsMatched + 1 }
    let details := correlated
      (Number.natText tally.matched ++ " of " ++ Number.natText workflow.activeRules.length
        ++ " rules matched") context
    if tally.failed = 0 then
      log workflow.id .success fun entry => entry.withDetails details
    else
      log workflow.id .failed fun entry =>
        (entry.withDetails details).withError
          (Number.natText tally.failed ++ " rule(s) had failures")
    return .matched

def weighRules (workflow : Workflow) (prior : Option Record) (context : TriggerContext) :
    Run Session WorkflowRun := do
  match ← runRules workflow.id prior context ⟨0, 0⟩ workflow.activeRules with
  | none => return .cancelled
  | some tally => finish workflow context tally

/-- Passes over a workflow that no change of a monitored field has set off. -/
def passOver (workflow : Workflow) : Run Session WorkflowRun := do
  Session.count fun outcome =>
    { outcome with workflowsSkipped := outcome.workflowsSkipped + 1 }
  log workflow.id .skipped fun entry => entry.withDetails (unchangedText workflow)
  return .skipped

def runWorkflow (workflow : Workflow) (trigger : TriggerType) (prior : Option Record)
    (context : TriggerContext) : Run Session WorkflowRun := do
  Session.remember (.began workflow)
  Session.count fun outcome =>
    { outcome with workflowsEvaluated := outcome.workflowsEvaluated + 1 }
  let record ← Run.gets Session.record
  if isTriggeredBy workflow trigger record prior then weighRules workflow prior context
  else passOver workflow

/-- Evaluates a workflow; a break within it becomes a failed entry. -/
def runGuarded (workflow : Workflow) (trigger : TriggerType) (prior : Option Record)
    (context : TriggerContext) : Run Session WorkflowRun := do
  match ← (runWorkflow workflow trigger prior context).guarded with
  | some run => return run
  | none =>
    log workflow.id .failed fun entry => entry.withError "workflow evaluation panicked"
    return .noMatch

def markCancelled : Run Session Unit :=
  Session.count fun outcome => { outcome with cancelled := true }

/-- What follows a workflow, by how its evaluation ended: nothing if the run is cancelled, or if
the workflow matched and stops the rest. -/
def goOn (workflow : Workflow) (rest : Run Session Unit) : WorkflowRun → Run Session Unit
  | .cancelled => markCancelled
  | .matched => if workflow.stopOnMatch then pure () else rest
  | _ => rest

/-- Evaluates workflows one after another, up to a matched one that stops the rest. -/
def runWorkflows (trigger : TriggerType) (prior : Option Record) (context : TriggerContext) :
    List Workflow → Run Session Unit
  | [] => pure ()
  | workflow :: rest => do
    if ← isCancelled context then markCancelled
    else
      let run ← runGuarded workflow trigger prior context
      goOn workflow (runWorkflows trigger prior context rest) run

/-- Saves what the run wrote to the record. -/
def persist : Run Session Unit := do
  let record ← Run.gets Session.record
  match ← Session.onHost (saveWrites record) with
  | none => pure ()
  | some answer =>
    Session.remember (.saved record.changes answer)
    Run.modify fun session => { session with record := record.afterSaving answer }

/-- The workflows that apply, whatever is loaded. -/
def applicable (recordType : String) (trigger : TriggerType) : Attempt (List Workflow) := do
  return Workflow.applicable (← Host.loadWorkflows recordType trigger) recordType trigger

/-- Runs the workflows that apply to the session's record, and saves what they wrote; without
them, when they cannot be loaded, nothing is done. -/
def runApplicable (trigger : TriggerType) (prior : Option Record) (context : TriggerContext) :
    Run Session Unit := do
  let record ← Run.gets Session.record
  match ← Session.onHost (applicable record.recordType trigger).run with
  | .error _ => pure ()
  | .ok workflows =>
    runWorkflows trigger prior context workflows
    persist

/-- Selects and runs workflows on the session's record, unless the engine is off or the run is
cancelled already. -/
def runTrigger (engine : Engine) (trigger : TriggerType) (prior : Option Record)
    (context : TriggerContext) : Run Session Unit := do
  if engine.enabled then
    if ← isCancelled context then markCancelled
    else runApplicable trigger prior context

/-- Runs automation for an event of a record; gives the count and the record afterwards. -/
def processTrigger (engine : Engine) (record : Record) (trigger : TriggerType)
    (prior : Option Record) (context : TriggerContext) : Run Host (TriggerOutcome × Record) :=
  Session.start record (engine.runTrigger trigger prior context)

/-- Runs one workflow on the session's record, and saves what it wrote. -/
def runAlone (engine : Engine) (workflow : Workflow) (trigger : TriggerType)
    (context : TriggerContext) : Run Session Unit := do
  if engine.enabled && workflow.isActive then
    match ← runGuarded workflow trigger none context with
    | .cancelled => markCancelled
    | _ => pure ()
    persist

/-- Runs one workflow on a record without selection; gives the count and the record afterwards. -/
def processWorkflow (engine : Engine) (workflow : Workflow) (record : Record)
    (trigger : TriggerType) (context : TriggerContext) : Run Host (TriggerOutcome × Record) :=
  Session.start record (engine.runAlone workflow trigger context)

/-- Runs automation for an event; gives the count and the event with its record afterwards. -/
def processEvent (engine : Engine) (event : TriggerEvent) (context : TriggerContext) :
    Run Host (TriggerOutcome × TriggerEvent) := do
  let (outcome, record) ←
    engine.processTrigger event.record event.triggerType event.prior context
  return (outcome, { event with record })

def logDelayed (delayed : DelayedAction) (status : Status) (complete : LogEntry → LogEntry) :
    Run Host Unit := do
  let entry ← newEntry delayed.workflowId delayed.recordType delayed.recordId status
  writeLog (complete (entry.forAction delayed.ruleId delayed.actionId))

/-- Runs a delayed action now, against its snapshot. -/
def runDelayed (delayed : DelayedAction) : Run Host ActionResult := do
  match Record.ofSnapshot delayed.recordSnapshot with
  | .error error =>
    let result := ActionResult.failure ("unreadable record snapshot: " ++ error.message)
    logDelayed delayed .failed fun entry => entry.withError result.message
    return result
  | .ok record =>
    match ← (Host.loadAction delayed.actionId).run with
    | .error error =>
      let result := ActionResult.failure ("failed to load action: " ++ error.message)
      logDelayed delayed .failed fun entry => entry.withError result.message
      return result
    | .ok found =>
      match found.filter Action.isActive with
      | none =>
        let result := ActionResult.skipped "action no longer exists or is inactive"
        logDelayed delayed .skipped fun entry => entry.withDetails result.message
        return result
      | some action =>
        let (result, record) ← Execution.executeNow action record
          ⟨delayed.workflowId, delayed.ruleId, delayed.actingUserId, delayed.tenantId⟩
        logDelayed delayed result.status fun entry => entry.withResult result
        let _ ← saveWrites record
        return result

end Engine

end RecordRules
