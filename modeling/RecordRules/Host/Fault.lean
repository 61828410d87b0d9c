/-!
# Disturbances

The calls of automation to what surrounds it, and what may go wrong with each of them before it is
answered.
-/

namespace RecordRules

/-- A call of automation to its surroundings. -/
inductive Method where
  | loadWorkflows
  | scheduledWorkflows
  | loadWorkflow
  | loadAction
  | appendLog
  | createFollowUp
  | saveRecordChanges
  | createRecord
  | updateRelated
  | loadRecords
  | email
  | notification
  | webhook
  | findUser
  | scheduleDelayed
  | claimDue
  | complete
  deriving DecidableEq, Repr

namespace Method

def name : Method → String
  | .loadWorkflows => "load_workflows"
  | .scheduledWorkflows => "scheduled_workflows"
  | .loadWorkflow => "load_workflow"
  | .loadAction => "load_action"
  | .appendLog => "append_log"
  | .createFollowUp => "create_follow_up"
  | .saveRecordChanges => "save_record_changes"
  | .createRecord => "create_record"
  | .updateRelated => "update_related"
  | .loadRecords => "load_records"
  | .email => "email"
  | .notification => "notification"
  | .webhook => "webhook"
  | .findUser => "find_user"
  | .scheduleDelayed => "schedule_delayed"
  | .claimDue => "claim_due"
  | .complete => "complete"

def all : List Method :=
  [.loadWorkflows, .scheduledWorkflows, .loadWorkflow, .loadAction, .appendLog, .createFollowUp,
   .saveRecordChanges, .createRecord, .updateRelated, .loadRecords, .email, .notification,
   .webhook, .findUser, .scheduleDelayed, .claimDue, .complete]

end Method

/-- What happens to a call. -/
inductive Disturbance where
  | none
  /-- The call fails. -/
  | error
  /-- The call breaks off. -/
  | panic
  /-- The run is cancelled, then the call is answered. -/
  | cancel
  /-- Workflows are loaded without selection. -/
  | unfiltered
  deriving DecidableEq, Repr

/-- What happens to the calls of each method, counted from zero. -/
abbrev FaultPlan := Method → Nat → Disturbance

namespace FaultPlan

/-- Nothing is disturbed. -/
def calm : FaultPlan := fun _ _ => .none

/-- Every call of a method is disturbed; the other methods are as before. -/
def always (plan : FaultPlan) (method : Method) (disturbance : Disturbance) : FaultPlan :=
  fun other index => if other = method then disturbance else plan other index

/-- The first call of a method is disturbed; the other methods are as before. -/
def once (plan : FaultPlan) (method : Method) (disturbance : Disturbance) : FaultPlan :=
  fun other index =>
    if other = method then (if index = 0 then disturbance else .none) else plan other index

/-- The plan with one more entry, which is given by names; unknown names change nothing. -/
def withEntry (plan : FaultPlan) (call mode : String) : FaultPlan :=
  match Method.all.find? (fun method => method.name == call), mode with
  | some method, "error" => plan.always method .error
  | some method, "error_once" => plan.once method .error
  | some method, "panic" => plan.always method .panic
  | some method, "panic_once" => plan.once method .panic
  | some method, "cancel" => plan.always method .cancel
  | some method, "unfiltered" => plan.always method .unfiltered
  | _, _ => plan

def ofNames (entries : List (String × String)) : FaultPlan :=
  entries.foldl (fun plan (call, mode) => plan.withEntry call mode) calm

end FaultPlan

end RecordRules
