import RecordRules.Proofs.DelayedRuns

/-!
# The master switch

An engine that is off answers every request as if nothing had been asked of it,
except the request to run a delayed action, which does not look at the switch.
So all that an engine leaves behind while it is off, it leaves by delayed
actions.
-/

namespace RecordRules

namespace Engine

/-- A request to an engine, by one of its entry points. -/
inductive Request where
  | trigger
      (record : Record) (trigger : TriggerType) (prior : Option Record)
      (context : TriggerContext)
  | event (event : TriggerEvent) (context : TriggerContext)
  | workflow
      (workflow : Workflow) (record : Record) (trigger : TriggerType)
      (context : TriggerContext)
  | delayed (delayed : DelayedAction)

inductive Reply where
  | counted (outcome : TriggerOutcome) (record : Record)
  | handled (outcome : TriggerOutcome) (event : TriggerEvent)
  | ran (result : ActionResult)

def Request.isDelayed : Request → Bool
  | .delayed _ => true
  | _ => false

/-- The reply that tells of nothing done; there is none of that kind to a
delayed action. -/
def Request.untouched? : Request → Option Reply
  | .trigger record _ _ _ => some (.counted .zero record)
  | .event happened _ => some (.handled .zero happened)
  | .workflow _ record _ _ => some (.counted .zero record)
  | .delayed _ => none

def handle (engine : Engine) : Request → Run Host Reply
  | .trigger record trigger prior context => do
    let (outcome, record) ← engine.processTrigger record trigger prior context
    return .counted outcome record
  | .event event context => do
    let (outcome, event) ← engine.processEvent event context
    return .handled outcome event
  | .workflow workflow record trigger context => do
    let (outcome, record) ←
      engine.processWorkflow workflow record trigger context
    return .counted outcome record
  | .delayed delayed => do
    return .ran (← runDelayed delayed)

/-- How requests end, one after another, and the surroundings afterwards; one
that breaks off does not keep the next from being taken up. -/
def handleAll (engine : Engine) (host : Host) :
    List Request → List (Ending Reply) × Host
  | [] => ([], host)
  | request :: rest =>
    let (ending, later) := engine.handle request host
    let (endings, last) := engine.handleAll later rest
    (ending :: endings, last)

theorem handleAll_cons_host
    (engine : Engine) (host : Host) (request : Request) (rest : List Request) :
    (engine.handleAll host (request :: rest)).2 =
      (engine.handleAll (engine.handle request host).2 rest).2 := rfl

/-! ## Requests to an engine that is off -/

section Disabled

variable {engine : Engine}

theorem start_of_unchanged
    {record : Record} {work : Run Session Unit} {host : Host}
    (h : work (.begin host record) = (.value (), .begin host record)) :
    Session.start record work host =
      (.value (TriggerOutcome.zero, record), host) := by
  rw [Session.start, h]
  rfl

theorem processTrigger_of_disabled
    (hdisabled : engine.enabled = false) (record : Record)
    (trigger : TriggerType) (prior : Option Record) (context : TriggerContext)
    (host : Host) :
    engine.processTrigger record trigger prior context host =
      (.value (.zero, record), host) :=
  start_of_unchanged (runTrigger_of_disabled hdisabled trigger prior context _)

theorem processWorkflow_of_disabled
    (hdisabled : engine.enabled = false) (workflow : Workflow)
    (record : Record) (trigger : TriggerType) (context : TriggerContext)
    (host : Host) :
    engine.processWorkflow workflow record trigger context host =
      (.value (.zero, record), host) := by
  refine start_of_unchanged ?_
  rw [runAlone, if_neg (by simp [hdisabled])]
  rfl

theorem handle_of_disabled
    (hdisabled : engine.enabled = false) {request : Request} {reply : Reply}
    (hreply : request.untouched? = some reply) (host : Host) :
    engine.handle request host = (.value reply, host) := by
  cases request with
  | trigger record trigger prior context =>
      obtain rfl := Option.some.inj hreply
      have hrun :=
        processTrigger_of_disabled hdisabled record trigger prior context host
      rw [handle, Run.bind_of_value hrun]
      rfl
  | event event context =>
      obtain rfl := Option.some.inj hreply
      have hrun :=
        processTrigger_of_disabled hdisabled event.record event.triggerType
          event.prior context host
      have hevent :
          engine.processEvent event context host =
            (.value (.zero, event), host) := by
        rw [processEvent, Run.bind_of_value hrun]
        rfl
      rw [handle, Run.bind_of_value hevent]
      rfl
  | workflow workflow record trigger context =>
      obtain rfl := Option.some.inj hreply
      have hrun :=
        processWorkflow_of_disabled hdisabled workflow record trigger context
          host
      rw [handle, Run.bind_of_value hrun]
      rfl
  | delayed delayed => simp [Request.untouched?] at hreply

theorem Request.untouched?_of_not_isDelayed
    {request : Request} (h : request.isDelayed = false) :
    ∃ reply, request.untouched? = some reply := by
  cases request with
  | delayed delayed => simp [isDelayed] at h
  | _ => exact ⟨_, rfl⟩

theorem handle_of_isDelayed
    {request : Request} (h : request.isDelayed = true)
    (engine other : Engine) :
    engine.handle request = other.handle request := by
  cases request with
  | delayed delayed => rfl
  | _ => simp [Request.isDelayed] at h

/-- An engine that is off answers each request for workflows by nothing done,
and leaves of all requests what an engine that is on leaves of the delayed
actions among them. -/
theorem disabled_runs_only_delayed
    (hdisabled : engine.enabled = false) (requests : List Request)
    (host : Host) :
    (∀ request ∈ requests, ∀ reply, request.untouched? = some reply →
      ∀ present, engine.handle request present = (.value reply, present)) ∧
      (engine.handleAll host requests).2 =
        (handleAll ⟨true⟩ host (requests.filter Request.isDelayed)).2 := by
  constructor
  · intro request _ reply hreply present
    exact handle_of_disabled hdisabled hreply present
  · induction requests generalizing host with
    | nil => rfl
    | cons request rest ih =>
        by_cases hdelayed : request.isDelayed = true
        · rw [List.filter_cons_of_pos hdelayed, handleAll_cons_host,
            handleAll_cons_host, handle_of_isDelayed hdelayed engine ⟨true⟩]
          exact ih _
        · obtain ⟨reply, hreply⟩ :=
            Request.untouched?_of_not_isDelayed (by simpa using hdelayed)
          rw [List.filter_cons_of_neg hdelayed, handleAll_cons_host,
            handle_of_disabled hdisabled hreply]
          exact ih host

end Disabled

/-! ## A delayed action of an engine that is off -/

/-- The order to escalate a new ticket. -/
def escalateLater : DelayedAction :=
  escalate.deferral newTicket escalationContext (.numbered 4) ⟨0, 0⟩ ⟨300, 0⟩

/-- Of three requests for a new ticket, only the delayed action writes to the
log of an engine that is off. -/
theorem disabled_runs_only_delayed_escalation :
    let requests : List Request :=
      [.trigger newTicket .onCreate none .detached, .delayed escalateLater,
        .workflow escalation newTicket .manual .detached]
    let host := Host.ofWorkflows [escalation] ⟨300, 0⟩
    (handleAll ⟨false⟩ host requests).2 =
        (handleAll ⟨true⟩ host [.delayed escalateLater]).2 ∧
      (handleAll ⟨false⟩ host requests).2.store.logs.map LogEntry.actionId =
        [some escalateLater.actionId] := by
  intro requests host
  have hhost := (disabled_runs_only_delayed rfl requests host).2
  exact ⟨hhost, by decide +kernel⟩

/-- An engine that is off writes to the log and saves a change, when it is given
a delayed action. -/
theorem disabled_saves_delayed :
    let host := (handleAll ⟨false⟩ (.ofWorkflows [escalation] ⟨300, 0⟩)
      [.delayed escalateLater]).2
    host.store.logs.map LogEntry.status = [.success] ∧
      (host.store.saved? "Ticket" "t-1").map Fields.names =
        some ["Status"] := by
  decide +kernel

end Engine

end RecordRules
