import RecordRules.Jobs.Cron
import RecordRules.Workflow.Basic

/-!
# Reconciliation of cron jobs

Every active scheduled workflow has one cron job.  A registry keeps the job of each workflow with
the schedule it was made from; a reconciliation removes the jobs of workflows that are gone or
changed and adds those that are missing.  Adding to or removing from the cron table may fail, which
ends the reconciliation where it stands.  What a valid schedule is, the cron table decides.
-/

namespace RecordRules

/-- A live cron job. -/
structure CronJob where
  jobId : Nat
  workflowId : Uuid
  schedule : String
  deriving DecidableEq, Repr, Inhabited

/-- The cron table: its live jobs, how many jobs were ever added, and how many changes were asked
for. -/
structure CronTable where
  jobs : List CronJob
  added : Nat
  changes : Nat
  deriving DecidableEq, Repr, Inhabited

/-- Which of the changes asked for, counted from zero, fail. -/
abbrev CronRefusals := Nat → Bool

/-- Every change that is asked for is made. -/
def CronRefusals.never : CronRefusals := fun _ => false

namespace CronTable

def empty : CronTable := ⟨[], 0, 0⟩

/-- Adds a job and gives its identifier, which no job had before. -/
def add (refuses : CronRefusals) (table : CronTable) (workflowId : Uuid) (schedule : String) :
    Option Nat × CronTable :=
  let asked := { table with changes := table.changes + 1 }
  if refuses table.changes then (none, asked)
  else
    (some table.added,
      { asked with
        jobs := table.jobs ++ [⟨table.added, workflowId, schedule⟩]
        added := table.added + 1 })

/-- Removes a job; says whether that worked. -/
def remove (refuses : CronRefusals) (table : CronTable) (jobId : Nat) : Bool × CronTable :=
  let asked := { table with changes := table.changes + 1 }
  if refuses table.changes then (false, asked)
  else (true, { asked with jobs := table.jobs.filter fun job => job.jobId != jobId })

end CronTable

/-- What a reconciliation tells. -/
inductive CronNotice where
  | scheduled (name schedule : String)
  | unscheduled (workflowId : Uuid) (schedule : String)
  | invalid (name schedule : String)
  | registered (count : Nat)
  deriving DecidableEq, Repr

def CronNotice.message : CronNotice → String
  | .scheduled name schedule => "Scheduled workflow '" ++ name ++ "' with '" ++ schedule ++ "'"
  | .unscheduled workflowId schedule =>
    "Unscheduled workflow " ++ workflowId.text ++ " ('" ++ schedule ++ "')"
  | .invalid name schedule =>
    "Workflow '" ++ name ++ "' has an invalid schedule '" ++ schedule ++ "': ParseSchedule"
  | .registered count => Number.natText count ++ " scheduled workflow job(s) registered"

/-- The cron table, and the registry: for each workflow its job with the schedule it was made
from. -/
structure CronState where
  table : CronTable
  registry : List CronJob
  notices : List CronNotice
  deriving Repr, Inhabited

namespace CronState

def empty : CronState := ⟨.empty, [], []⟩

def tell (state : CronState) (notice : CronNotice) : CronState :=
  { state with notices := state.notices ++ [notice] }

/-- The wanted schedule of a workflow: of several workflows of one identifier that of the last. -/
def wanted? (workflows : List Workflow) (id : Uuid) : Option String :=
  (workflows.reverse.findSome? fun workflow =>
    if workflow.id = id then workflow.schedule else none).map Cron.normalize

/-- Is a registered job no longer wanted as it is? -/
def isStale (workflows : List Workflow) (job : CronJob) : Bool :=
  wanted? workflows job.workflowId != some job.schedule

/-- Takes jobs out of the registry and removes them; stops when removing fails. -/
def unschedule (refuses : CronRefusals) (state : CronState) : List CronJob → Bool × CronState
  | [] => (true, state)
  | job :: rest =>
    let registry := state.registry.filter fun other => other.workflowId != job.workflowId
    let (removed, table) := state.table.remove refuses job.jobId
    let state := { state with table, registry }
    if removed then unschedule refuses (state.tell (.unscheduled job.workflowId job.schedule)) rest
    else (false, state)

/-- Adds the job of a workflow unless it is registered; says whether that worked. -/
def scheduleOne (isValid : String → Bool) (refuses : CronRefusals) (workflows : List Workflow)
    (workflow : Workflow) (state : CronState) : Bool × CronState :=
  match wanted? workflows workflow.id with
  | none => (true, state)
  | some schedule =>
    if state.registry.any fun job => job.workflowId == workflow.id then (true, state)
    else if isValid schedule then
      match state.table.add refuses workflow.id schedule with
      | (none, table) => (false, { state with table })
      | (some jobId, table) =>
        let job : CronJob := ⟨jobId, workflow.id, schedule⟩
        (true, { state with table, registry := state.registry ++ [job] }.tell
          (.scheduled workflow.name schedule))
    else (true, state.tell (.invalid workflow.name schedule))

/-- Adds the missing jobs; stops when adding fails. -/
def scheduleAll (isValid : String → Bool) (refuses : CronRefusals) (workflows : List Workflow)
    (state : CronState) : List Workflow → Bool × CronState
  | [] => (true, state)
  | workflow :: rest =>
    match scheduleOne isValid refuses workflows workflow state with
    | (false, state) => (false, state)
    | (true, state) => scheduleAll isValid refuses workflows state rest

/-- Brings jobs and registry in step with the scheduled workflows; says whether that worked. -/
def reconcile (isValid : String → Bool) (refuses : CronRefusals) (workflows : List Workflow)
    (state : CronState) : Bool × CronState :=
  match unschedule refuses state (state.registry.filter (isStale workflows)) with
  | (false, state) => (false, state)
  | (true, state) =>
    match scheduleAll isValid refuses workflows state workflows with
    | (false, state) => (false, state)
    | (true, state) => (true, state.tell (.registered state.registry.length))

end CronState

end RecordRules
