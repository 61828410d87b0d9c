import RecordRules.Engine.Execution

/-!
# Sessions

The state of one run of automation: the surroundings, the record as written so far, the count of
what has happened, and the trace of it.  A run that breaks off within a workflow goes on with what
the session holds.
-/

namespace RecordRules

/-- An action that was run: for whom, on which record, to what result, and the record
afterwards. -/
structure Performed where
  context : ExecutionContext
  action : Action
  before : Record
  result : ActionResult
  after : Record
  deriving Repr, Inhabited

/-- One thing that happened in a run. -/
inductive Moment where
  /-- It was asked whether to give up, and answered. -/
  | asked (answer : Bool)
  /-- A workflow was taken up. -/
  | began (workflow : Workflow)
  /-- The conditions of a rule were looked at. -/
  | weighed (rule : Rule) (holds : Bool)
  | performed (performed : Performed)
  /-- An entry was handed to the log, whether or not it got there. -/
  | logged (entry : LogEntry)
  /-- Changes of the record were handed to the store, which answered. -/
  | saved (changes : Fields) (answer : Except WorkflowError Unit)

/-- The surroundings, the record, the count and the trace of one run. -/
structure Session where
  host : Host
  record : Record
  outcome : TriggerOutcome
  trace : List Moment

namespace Session

/-- A run on a record in which nothing has happened yet. -/
def begin (host : Host) (record : Record) : Session := ⟨host, record, .zero, []⟩

/-- A computation on the surroundings alone. -/
def onHost (work : Run Host α) : Run Session α :=
  work.within Session.host fun host session => { session with host }

def count (change : TriggerOutcome → TriggerOutcome) : Run Session Unit :=
  Run.modify fun session => { session with outcome := change session.outcome }

def remember (moment : Moment) : Run Session Unit :=
  Run.modify fun session => { session with trace := session.trace ++ [moment] }

/-- Runs an action on the session's record and counts it. -/
def execute (action : Action) (context : ExecutionContext) : Run Session ActionResult := do
  let before ← Run.gets Session.record
  let (result, after) ← onHost (Execution.execute action before context)
  remember (.performed ⟨context, action, before, result, after⟩)
  Run.modify fun session =>
    { session with record := after, outcome := session.outcome.countAction result.status }
  return result

/-- Runs within new surroundings on a record, from the count zero. -/
def start (record : Record) (work : Run Session Unit) : Run Host (TriggerOutcome × Record) :=
  fun host =>
    match work (begin host record) with
    | (.value (), session) => (.value (session.outcome, session.record), session.host)
    | (.panic, session) => (.panic, session.host)

end Session

/-- A new entry of the log about a workflow and a record, with a fresh identifier. -/
def newEntry (workflowId : Uuid) (recordType recordId : String) (status : Status) :
    Run Host LogEntry := do
  return LogEntry.ofWorkflow (← Host.mintId) workflowId recordType recordId status (← Host.clock)

/-- Writes an entry to the log as well as it can be done; a failure is passed over. -/
def writeLog (entry : LogEntry) : Run Host Unit := do
  let _ ← (Host.appendLog entry).run
  return ()

def LogEntry.withResult (entry : LogEntry) (result : ActionResult) : LogEntry :=
  let entry := entry.withDuration result.durationMs
  if result.isFailure then entry.withError result.message else entry.withDetails result.message

/-- Hands the written fields of a record to the store, if there are any, which answers. -/
def saveWrites (record : Record) : Run Host (Option (Except WorkflowError Unit)) := do
  if record.isDirty then
    return some (← (Host.saveRecordChanges record.recordType record.id record.changes).run)
  else return none

/-- The record once the store has answered: when saving fails, what was written stays so. -/
def Record.afterSaving (record : Record) : Except WorkflowError Unit → Record
  | .ok () => record.clearChanges
  | .error _ => record

end RecordRules
