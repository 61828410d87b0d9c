import RecordRules.Host.Basic
import RecordRules.Jobs.Reconcile
import RecordRules.Settings

/-!
# The job scheduler

The scheduler of the background jobs: one that looks for due actions, and one cron job for each
scheduled workflow.  Starting it registers the jobs; it can be started once, but a further start
still brings the jobs in step with the store before it fails.
-/

namespace RecordRules

/-- Why the scheduler did not start. -/
inductive SchedulerError where
  | alreadyStarted
  /-- A job could not be added or removed. -/
  | jobRefused
  | workflow (error : WorkflowError)
  | configuration (message : String)
  deriving DecidableEq, Repr

namespace SchedulerError

def message : SchedulerError → String
  | .alreadyStarted => "Scheduler error: StartScheduler"
  | .jobRefused => "Scheduler error: CantAdd"
  | .workflow error => "Workflow error: " ++ error.message
  | .configuration message => "Configuration error: " ++ message

def kind : SchedulerError → String
  | .alreadyStarted => "SchedulerError"
  | .jobRefused => "SchedulerError"
  | .workflow _ => "WorkflowError"
  | .configuration _ => "ConfigError"

end SchedulerError

/-- The scheduler: its settings, its cron jobs, whether it has started, and what it has told. -/
structure JobScheduler where
  config : EngineConfig
  cron : CronState
  started : Bool
  told : List String
  deriving Repr, Inhabited

namespace JobScheduler

def ofConfig (config : EngineConfig) : JobScheduler := ⟨config, .empty, false, []⟩

def tell (scheduler : JobScheduler) (message : String) : JobScheduler :=
  { scheduler with told := scheduler.told ++ [message] }

/-- What is told of reading schedules again. -/
def refreshText (config : EngineConfig) : String :=
  if config.scheduleRefreshSecs = 0 then "Scheduled workflow refresh disabled"
  else
    "Refreshing scheduled workflows every " ++ Number.natText config.scheduleRefreshSecs
      ++ " seconds"

/-- Brings the cron jobs in step with workflows read from the store. -/
def sync (isValid : String → Bool) (refuses : CronRefusals) (workflows : List Workflow)
    (scheduler : JobScheduler) : Bool × JobScheduler :=
  let (done, cron) :=
    CronState.reconcile isValid refuses workflows { scheduler.cron with notices := [] }
  (done, { scheduler with cron, told := scheduler.told ++ cron.notices.map CronNotice.message })

/-- The part of a start after the workflows have been read. -/
def startWith (isValid : String → Bool) (refuses : CronRefusals) (workflows : List Workflow)
    (scheduler : JobScheduler) : Except SchedulerError Unit × JobScheduler :=
  match scheduler.sync isValid refuses workflows with
  | (false, scheduler) => (.error .jobRefused, scheduler)
  | (true, scheduler) =>
    let scheduler := scheduler.tell (refreshText scheduler.config)
    if scheduler.started then (.error .alreadyStarted, scheduler)
    else
      (.ok (),
        { scheduler with started := true }.tell "Automation job scheduler started successfully")

/-- Starts the scheduler on a cron table that takes some schedules as valid; what it tells comes
from this start alone. -/
def startOn (isValid : String → Bool) (refuses : CronRefusals) (scheduler : JobScheduler) :
    Run Host (Except SchedulerError Unit × JobScheduler) := do
  let scheduler := { scheduler with told := ["Starting automation job scheduler"] }
  let interval := scheduler.config.delayedPollIntervalSecs
  if interval = 0 then
    return (.error (.configuration "delayed action poll interval must be positive"), scheduler)
  let scheduler := scheduler.tell
    ("Scheduled delayed action polling every " ++ Number.natText interval ++ " seconds")
  match ← Host.scheduledWorkflows.run with
  | .error error => return (.error (.workflow error), scheduler)
  | .ok workflows => return scheduler.startWith isValid refuses workflows

/-- Starts the scheduler. -/
def start (refuses : CronRefusals) (scheduler : JobScheduler) :
    Run Host (Except SchedulerError Unit × JobScheduler) :=
  scheduler.startOn Cron.isValid refuses

end JobScheduler

end RecordRules
