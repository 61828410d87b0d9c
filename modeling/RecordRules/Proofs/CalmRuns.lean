import RecordRules.Proofs.SessionSteps

/-!
# Calm surroundings

Where no call breaks off, every entry gets to the log and nobody asks to give
up, each part of a run ends with a value, and what it adds to the log, to the
count and to the trace is known.
-/

namespace RecordRules

open Host (Acts Effect Leads)

namespace TriggerOutcome

def add (a b : TriggerOutcome) : TriggerOutcome where
  workflowsEvaluated := a.workflowsEvaluated + b.workflowsEvaluated
  workflowsMatched := a.workflowsMatched + b.workflowsMatched
  workflowsSkipped := a.workflowsSkipped + b.workflowsSkipped
  rulesMatched := a.rulesMatched + b.rulesMatched
  actionsSucceeded := a.actionsSucceeded + b.actionsSucceeded
  actionsFailed := a.actionsFailed + b.actionsFailed
  actionsPending := a.actionsPending + b.actionsPending
  cancelled := a.cancelled || b.cancelled

@[simp] theorem add_zero (a : TriggerOutcome) : a.add zero = a := by
  simp [add, zero]

@[simp] theorem zero_add (a : TriggerOutcome) : zero.add a = a := by
  simp [add, zero]

theorem add_assoc (a b c : TriggerOutcome) :
    (a.add b).add c = a.add (b.add c) := by
  simp [add, Nat.add_assoc, Bool.or_assoc]

theorem add_comm (a b : TriggerOutcome) : a.add b = b.add a := by
  simp [add, Nat.add_comm, Bool.or_comm]

theorem countAction_eq_add (a : TriggerOutcome) (status : Status) :
    a.countAction status = a.add (zero.countAction status) := by
  cases status <;> simp [countAction, add, zero]

end TriggerOutcome

/-- Surroundings in which a run under the context is neither disturbed nor
cancelled, and whose clock leaves room for the delay of every stored action. -/
structure Host.Calm (host : Host) (context : TriggerContext) : Prop where
  keepsLog : host.KeepsLog
  unbroken : ∀ method index, host.faults method index ≠ .panic
  loads : ∀ index, host.faults .loadWorkflows index ≠ .error
  uncancelled : context.cancellable = false ∨
    (host.patience = none ∧
      ∀ method index, host.faults method index ≠ .cancel)
  timely : host.defersActions = true →
    ∀ action ∈ host.store.actions, 0 < action.delayMinutes →
      (host.now.addSeconds (action.delayMinutes * 60)).isSome

namespace Host.Calm

variable {host later : Host} {context : TriggerContext}

/-- Calm surroundings stay calm under effects, as long as nobody takes
patience. -/
theorem of_leads
    {effects : List Effect}
    (h : host.Calm context) (hleads : Leads effects host later)
    (hpatience :
      (∀ method index, host.faults method index ≠ .cancel) →
        later.patience = host.patience) :
    later.Calm context where
  keepsLog := h.keepsLog.of_leads hleads
  unbroken := by
    rw [hleads.faults]
    exact h.unbroken
  loads := by
    rw [hleads.faults]
    exact h.loads
  uncancelled := by
    refine h.uncancelled.imp_right fun ⟨hnone, hcancel⟩ => ⟨?_, ?_⟩
    · rw [hpatience hcancel]
      exact hnone
    · rw [hleads.faults]
      exact hcancel
  timely := by
    unfold WorkflowStore.actions
    rw [hleads.defersActions, hleads.workflows, hleads.now]
    exact h.timely

theorem of_acts
    {α : Type} {scope : Host.Scope} {x : Run Host α}
    (h : host.Calm context) (hx : Acts scope x) :
    (x host).2.Calm context := by
  obtain ⟨effects, -, hleads⟩ := hx.leads host
  exact h.of_leads hleads fun hcancel => hx.patience hcancel

theorem givesUp_eq_false (h : host.Calm context) :
    host.givesUp context = false := by
  unfold givesUp
  rcases h.uncancelled with hcontext | ⟨hnone, -⟩
  · simp [hcontext]
  · simp [hnone]

theorem withPatienceLeft (h : host.Calm context) :
    (host.withPatience (host.patienceLeft context)).Calm context := by
  have hleads :
      Leads [] host (host.withPatience (host.patienceLeft context)) :=
    .of_counters host _ _ _
  refine
    { keepsLog := h.keepsLog.of_leads hleads
      unbroken := h.unbroken
      loads := h.loads
      uncancelled := h.uncancelled.imp_right fun ⟨hnone, hcancel⟩ => ?_
      timely := h.timely }
  refine ⟨?_, hcancel⟩
  unfold patienceLeft
  split <;> simp [Host.withPatience, hnone]

theorem ofWorkflows
    (workflows : List Workflow) (now : Time.Instant)
    (context : TriggerContext) :
    (Host.ofWorkflows workflows now).Calm context where
  keepsLog := ⟨rfl, by simp [Host.ofWorkflows, FaultPlan.calm]⟩
  unbroken := by simp [Host.ofWorkflows, FaultPlan.calm]
  loads := by simp [Host.ofWorkflows, FaultPlan.calm]
  uncancelled := .inr ⟨rfl, by simp [Host.ofWorkflows, FaultPlan.calm]⟩
  timely := by simp [Host.ofWorkflows]

end Host.Calm

/-! ## Running an action -/

namespace Execution

theorem scheduleDelayed_ends
    {delayed : DelayedAction} {host : Host}
    (hunbroken : ∀ method index, host.faults method index ≠ .panic) :
    Run.Ends (Host.scheduleDelayed delayed).run host := by
  obtain ⟨started, -, hcall⟩ :=
    Host.call_run_cases .scheduleDelayed
      (Host.answer (Run.modify fun host =>
        { host with queue := host.queue.schedule delayed })) host
  rcases hcall with hcall | ⟨-, hcall⟩ | ⟨hpanic, -⟩
  · exact ⟨_, _, hcall⟩
  · exact ⟨_, _, hcall⟩
  · exact absurd hpanic (hunbroken _ _)

/-- Putting an action off comes to a result, unless its time cannot be told
or the call breaks off. -/
theorem schedule_ends
    {action : Action} {record : Record} {context : ExecutionContext}
    {host : Host}
    (hunbroken : ∀ method index, host.faults method index ≠ .panic)
    (htimely : (host.now.addSeconds (action.delayMinutes * 60)).isSome) :
    Run.Ends (schedule action record context) host := by
  obtain ⟨runAt, hrunAt⟩ := Option.isSome_iff_exists.mp htimely
  unfold schedule Host.clock
  rw [Run.Ends, Run.gets_bind]
  simp only [hrunAt]
  refine Run.Ends.bind ⟨_, _, rfl⟩ fun id drawn hdrawn => ?_
  have hfaults : drawn.faults = host.faults := by
    obtain ⟨-, rfl⟩ := by simpa [Host.mintId, Run.update_apply] using hdrawn
    rfl
  refine .bind (scheduleDelayed_ends (by rw [hfaults]; exact hunbroken))
    fun outcome later _ => ?_
  cases outcome with
  | ok _ => exact ⟨_, later, rfl⟩
  | error _ => exact ⟨_, later, rfl⟩

/-- In calm surroundings every stored action comes to a result. -/
theorem execute_ends
    {action : Action} {trigger : TriggerContext} {host : Host}
    (hcalm : host.Calm trigger) (hstored : action ∈ host.store.actions)
    (record : Record) (context : ExecutionContext) :
    Run.Ends (execute action record context) host := by
  unfold execute
  rw [Run.Ends, Run.gets_bind]
  split
  · rename_i hdeferred
    obtain ⟨hdefers, hdelay⟩ :
        host.defersActions = true ∧ 0 < action.delayMinutes := by
      simpa using hdeferred
    have htimely := hcalm.timely hdefers action hstored hdelay
    exact Run.Ends.bind (schedule_ends hcalm.unbroken htimely)
      fun result later _ => ⟨_, later, rfl⟩
  · exact executeNow_ends action record context host

end Execution

/-! ## What the parts of a run add -/

/-- The result and the record afterwards are what running the action comes to
in some surroundings. -/
def Performed.Ran (performed : Performed) : Prop :=
  ∃ host later,
    Execution.execute performed.action performed.before performed.context
      host = (.value (performed.result, performed.after), later)

/-- What a part of a run adds to calm surroundings: entries to the log, actions
to those that were run, and counts; workflows and calm stay. -/
structure Session.Advances
    (context : TriggerContext) (entries : List LogEntry)
    (actions : List Performed) (counts : TriggerOutcome)
    (before later : Session) : Prop where
  logs : later.host.store.logs = before.host.store.logs ++ entries
  actions : actionsOf later.trace = actionsOf before.trace ++ actions
  outcome : later.outcome = before.outcome.add counts
  workflows : later.host.store.workflows = before.host.store.workflows
  calm : later.host.Calm context

namespace Session.Advances

variable {context : TriggerContext} {before later : Session}

theorem refl (h : before.host.Calm context) :
    Advances context [] [] .zero before before where
  logs := by simp
  actions := by simp
  outcome := by simp
  workflows := rfl
  calm := h

theorem trans
    {firstEntries secondEntries : List LogEntry}
    {firstActions secondActions : List Performed}
    {firstCounts secondCounts : TriggerOutcome} {a b c : Session}
    (hfirst : Advances context firstEntries firstActions firstCounts a b)
    (hsecond : Advances context secondEntries secondActions secondCounts b c) :
    Advances context (firstEntries ++ secondEntries)
      (firstActions ++ secondActions) (firstCounts.add secondCounts) a c where
  logs := by rw [hsecond.logs, hfirst.logs, List.append_assoc]
  actions := by rw [hsecond.actions, hfirst.actions, List.append_assoc]
  outcome := by
    rw [hsecond.outcome, hfirst.outcome, TriggerOutcome.add_assoc]
  workflows := by rw [hsecond.workflows, hfirst.workflows]
  calm := hsecond.calm

theorem storedActions
    {entries : List LogEntry} {actions : List Performed}
    {counts : TriggerOutcome}
    (h : Advances context entries actions counts before later) :
    later.host.store.actions = before.host.store.actions := by
  rw [WorkflowStore.actions, h.workflows, WorkflowStore.actions]

theorem of_count
    (h : before.host.Calm context) (counts : TriggerOutcome)
    (change : TriggerOutcome → TriggerOutcome)
    (hchange : change before.outcome = before.outcome.add counts) :
    Advances context [] [] counts before
      { before with outcome := change before.outcome } where
  logs := by simp
  actions := by simp
  outcome := hchange
  workflows := rfl
  calm := h

theorem of_look
    (h : before.host.Calm context) (moment : Moment)
    (hlook : moment.IsLook) :
    Advances context [] [] .zero before
      { before with trace := before.trace ++ [moment] } where
  logs := by simp
  actions := by rw [actionsOf_append, hlook.actionsOf]
  outcome := by simp
  workflows := rfl
  calm := h

end Session.Advances

namespace Engine

open Session (Advances)

variable {context : TriggerContext} {session : Session}

theorem isCancelled_calm (h : session.host.Calm context) :
    ∃ later,
      isCancelled context session = (.value false, later) ∧
        later.record = session.record ∧
        Advances context [] [] .zero session later := by
  have happly := isCancelled_apply context session
  rw [h.givesUp_eq_false] at happly
  refine ⟨_, happly, rfl, ?_⟩
  exact
    { logs := by simp [Host.withPatience]
      actions := by simp [actionsOf, Moment.performed?]
      outcome := by simp
      workflows := rfl
      calm := h.withPatienceLeft }

theorem execute_calm
    (h : session.host.Calm context) {action : Action}
    (hstored : action ∈ session.host.store.actions)
    (execution : ExecutionContext) :
    ∃ performed later,
      Session.execute action execution session =
          (.value performed.result, later) ∧
        performed.context = execution ∧ performed.action = action ∧
        performed.before = session.record ∧ performed.Ran ∧
        performed.result.status ≠ .skipped ∧
        later.record = performed.after ∧
        Advances context [] [performed]
          (.countAction .zero performed.result.status) session later := by
  obtain ⟨done, host, hdone⟩ :=
    Execution.execute_ends h hstored session.record execution
  have hacts := Execution.acts_execute action session.record execution
  obtain ⟨effects, hactions, hleads⟩ := hacts.leads session.host
  have hcalm := h.of_acts hacts
  rw [hdone] at hleads hcalm
  obtain ⟨hskipped, -⟩ :=
    Execution.yields_execute action session.record execution _ _ _ hdone
  have hlogs := hleads.logs_of_not_ofLog fun effect hmem =>
    (hactions effect hmem).not_ofLog
  refine ⟨⟨execution, action, session.record, done.1, done.2⟩, _,
    execute_of_value hdone, rfl, rfl, rfl, ⟨_, _, hdone⟩, hskipped, rfl, ?_⟩
  exact
    { logs := by
        change host.store.logs = _
        rw [hlogs, List.append_nil]
      actions := by simp [actionsOf, Moment.performed?]
      outcome := TriggerOutcome.countAction_eq_add _ _
      workflows := hleads.workflows
      calm := hcalm }

theorem log_calm
    (h : session.host.Calm context) (workflowId : Uuid) (status : Status)
    (complete : LogEntry → LogEntry) {ruleId actionId : Option Uuid}
    (hcomplete : ∀ entry : LogEntry,
      entry.Tells workflowId none none session.record status →
        (complete entry).Tells workflowId ruleId actionId session.record
          status) :
    ∃ entry later,
      log workflowId status complete session = (.value (), later) ∧
        entry.Tells workflowId ruleId actionId session.record status ∧
        later.record = session.record ∧
        Advances context [entry] [] .zero session later := by
  have hdrawn : Leads [] session.host (drawn session) :=
    .of_counters session.host _ _ _
  have hcalm : (drawn session).Calm context :=
    h.of_leads hdrawn fun _ => rfl
  let entry := nextEntry workflowId status complete session
  obtain ⟨kept, hleads, hkept⟩ := writeLog_leads entry (drawn session)
  obtain ⟨rfl, hends⟩ := hkept hcalm.keepsLog
  have hlogs := (hdrawn.trans hleads).logs
  refine ⟨entry, (log workflowId status complete session).2,
    Prod.ext hends rfl, hcomplete _ (LogEntry.tells_ofWorkflow _ _), rfl, ?_⟩
  rw [log_apply]
  exact
    { logs := hlogs
      actions := by simp [actionsOf, Moment.performed?]
      outcome := by simp
      workflows := (hdrawn.trans hleads).workflows
      calm := hcalm.of_acts (acts_writeLog entry) }

end Engine

end RecordRules
