import RecordRules.Proofs.RecordWrites
import RecordRules.Proofs.SessionSteps
import RecordRules.Proofs.Snapshots

/-!
# Delayed runs of actions

To put an action off changes when it runs and not what it does.  The order to
run it is all that the queue gets; when that order is run, the action does to
the surroundings what it would do to them at once with the record of the
snapshot, and what it wrote, and nothing else, is saved.
-/

namespace RecordRules

open Host (Acts Effect Leads)

/-- The order to run the action at an instant, with the record as it is. -/
def Action.deferral
    (action : Action) (record : Record) (context : ExecutionContext) (id : Uuid)
    (now runAt : Time.Instant) : DelayedAction where
  id := id
  actionId := action.id
  ruleId := context.ruleId
  workflowId := context.workflowId
  recordType := record.recordType
  recordId := record.id
  recordSnapshot := record.toJson
  actingUserId := context.actingUserId
  tenantId := context.tenantId
  runAt := runAt
  createdAt := now

/-- What is left to be done of an order. -/
inductive DelayedTask where
  /-- Nothing can be run, and the result tells why. -/
  | settled (result : ActionResult)
  | perform (action : Action) (record : Record)

namespace DelayedAction

/-- For which rule the action was put off, and on whose behalf. -/
def context (delayed : DelayedAction) : ExecutionContext :=
  ⟨delayed.workflowId, delayed.ruleId, delayed.actingUserId, delayed.tenantId⟩

/-- The entry of the log about the order when it has been run. -/
def entry
    (delayed : DelayedAction) (id : Uuid) (now : Time.Instant)
    (result : ActionResult) : LogEntry :=
  ((LogEntry.ofWorkflow id delayed.workflowId delayed.recordType
    delayed.recordId result.status now).forAction delayed.ruleId
      delayed.actionId).withResult result

/-- What there is to be done of the order with the actions of a store. -/
def task (delayed : DelayedAction) (store : WorkflowStore) : DelayedTask :=
  match Record.ofSnapshot delayed.recordSnapshot with
  | .error error =>
    .settled (.failure ("unreadable record snapshot: " ++ error.message))
  | .ok record =>
    match (store.action? delayed.actionId).filter Action.isActive with
    | none => .settled (.skipped "action no longer exists or is inactive")
    | some action => .perform action record

end DelayedAction

/-- What saving the record leaves. -/
def Record.saving (record : Record) : List Effect :=
  if record.isDirty then
    [.saved record.recordType record.id record.changes]
  else []

theorem Record.ofSave_saving (record : Record) :
    ∀ effect ∈ record.saving, effect.OfSave := by
  intro effect hmem
  unfold saving at hmem
  split at hmem
  · rw [List.mem_singleton.mp hmem]
    trivial
  · simp at hmem

/-- What handing the entry to the log leaves where nothing is disturbed. -/
def LogEntry.logging (entry : LogEntry) (host : Host) : List Effect :=
  if host.store.logWritesFail then [] else [.logged entry]

theorem LogEntry.unsaved_logging (entry : LogEntry) (host : Host) :
    ∀ effect ∈ entry.logging host, ¬ effect.OfSave := by
  intro effect hmem
  unfold LogEntry.logging at hmem
  split at hmem
  · simp at hmem
  · rw [List.mem_singleton.mp hmem]
    exact fun h => h

/-- A delayed run that has ended, beside a run of the action at once on the
record with nothing counting as written, in the same surroundings. -/
structure EndsAsNow
    (action : Action) (record : Record) (context : ExecutionContext)
    (host : Host) (ended : Ending ActionResult × Host)
    (result : ActionResult) (written : Record) (ran : Host) : Prop where
  now : Execution.executeNow action record.clearChanges context host =
    (.value (result, written), ran)
  ending : ended.1 = .value result
  /-- Beside the effects of the action there are its entry in the log and what
  it wrote. -/
  effects : ∃ id,
    Leads
      ((((LogEntry.ofWorkflow id context.workflowId record.recordType
            record.id result.status host.now).forAction context.ruleId
          action.id).withResult result).logging host ++ written.saving)
      ran ended.2
  identity : written.recordType = record.recordType ∧ written.id = record.id
  /-- Saved is the field that the action wrote, if it wrote one. -/
  writes : written.changes.names =
    (Performed.writtenKey
      ⟨context, action, record.clearChanges, result, written⟩).toList
  queue : ended.2.queue = host.queue

/-! ## Without disturbances -/

namespace Host

variable {host : Host}

theorem call_run_of_calm
    (hcalm : host.faults = .calm) {α : Type} (method : Method)
    (work : Attempt α) :
    (call method work).run host = work.run (host.counted method) := by
  rw [call, callEither_run_apply, hcalm]
  rfl

theorem loadAction_of_calm (id : Uuid) (hcalm : host.faults = .calm) :
    (loadAction id).run host =
      (.value (.ok (host.store.action? id)), host.counted .loadAction) := by
  rw [loadAction, call_run_of_calm hcalm]
  rfl

theorem Leads.queue_eq
    {effects : List Effect} {before later : Host}
    (h : Leads effects before later)
    (hnone : ∀ delayed, .deferred delayed ∉ effects) :
    later.queue = before.queue := by
  refine h.keeps Host.queue ?_ (fun _ _ _ _ => rfl)
  intro host effect hmem
  cases effect with
  | deferred delayed => exact absurd hmem (hnone delayed)
  | _ => rfl

end Host

theorem writeLog_of_calm
    (entry : LogEntry) {host : Host} (hcalm : host.faults = .calm) :
    ∃ later,
      writeLog entry host = (.value (), later) ∧
        Leads (entry.logging host) host later := by
  have hcall :
      (Host.appendLog entry).run host =
        (Host.storeEntry entry).run (host.counted .appendLog) :=
    Host.call_run_of_calm hcalm _ _
  have hcounted : Leads [] host (host.counted .appendLog) :=
    .of_counters host _ _ _
  rw [storeEntry_apply] at hcall
  unfold LogEntry.logging
  cases hfails : host.store.logWritesFail with
  | true =>
      rw [if_pos (show (host.counted .appendLog).store.logWritesFail = true
        from hfails)] at hcall
      exact ⟨_, Run.bind_of_value hcall _, hcounted⟩
  | false =>
      rw [if_neg (show ¬ (host.counted .appendLog).store.logWritesFail = true
        from by simp [Host.counted, hfails])] at hcall
      exact ⟨_, Run.bind_of_value hcall _, hcounted.trans (.of_effect _ _)⟩

theorem saveWrites_of_calm
    (record : Record) {host : Host} (hcalm : host.faults = .calm) :
    ∃ answer later,
      saveWrites record host = (.value answer, later) ∧
        Leads record.saving host later := by
  unfold saveWrites Record.saving
  split
  · have hcall :
        (Host.saveRecordChanges record.recordType record.id
            record.changes).run host =
          (.value (.ok ()),
            (Effect.saved record.recordType record.id record.changes).apply
              (host.counted .saveRecordChanges)) := by
      rw [Host.saveRecordChanges, Host.call_run_of_calm hcalm]
      rfl
    refine ⟨_, _, Run.bind_of_value hcall _, ?_⟩
    have hcounted : Leads [] host (host.counted .saveRecordChanges) :=
      .of_counters host _ _ _
    exact hcounted.trans (.of_effect _ _)
  · exact ⟨none, host, rfl, .refl host⟩

/-- Saved changes when those of the record are saved over them. -/
def Record.savedOver
    (record : Record) (saved : List ((String × String) × Fields)) :
    List ((String × String) × Fields) :=
  if record.isDirty then
    WorkflowStore.mergeSaved (record.recordType, record.id) record.changes saved
  else saved

theorem saved_of_saving
    {record : Record} {effects : List Effect} {before later : Host}
    (h : Leads (effects ++ record.saving) before later)
    (hunsaved : ∀ effect ∈ effects, ¬ effect.OfSave) :
    later.store.saved = record.savedOver before.store.saved := by
  obtain ⟨ids, calls, patience, rfl⟩ := h
  have hfirst : (before.after effects).store.saved = before.store.saved :=
    Leads.saved_of_not_ofSave ⟨_, _, _, rfl⟩ hunsaved
  rw [Host.after_append, ← hfirst]
  unfold Record.saving Record.savedOver
  split <;> rfl

/-! ## Putting an action off -/

namespace Execution

/-- Where nothing is disturbed, an action with a delay breaks off when the end
of its delay is not represented, and else is put into the queue. -/
theorem execute_of_delayed
    (action : Action) (record : Record) (context : ExecutionContext)
    {host : Host} (hcalm : host.faults = .calm)
    (hdefers : host.defersActions = true) (hdelay : 0 < action.delayMinutes) :
    execute action record context host =
      match host.now.addSeconds (action.delayMinutes * 60) with
      | none => (.panic, host)
      | some runAt =>
        let delayed :=
          action.deferral record context host.ids.draw.1 host.now runAt
        (.value
            (.pending ("Scheduled for " ++ runAt.text)
              (.object [("delayed_action_id", delayed.id.toJson),
                ("run_at", runAt.toJson)]), record),
          { host with
            ids := host.ids.draw.2
            calls := (host.counted .scheduleDelayed).calls
            queue := host.queue.schedule delayed }) := by
  rw [execute, Run.gets_bind, if_pos (by simp [hdefers, hdelay])]
  cases hrunAt : host.now.addSeconds (action.delayMinutes * 60) with
  | none =>
      have hschedule : schedule action record context host = (.panic, host) := by
        rw [schedule, Host.clock, Run.gets_bind, hrunAt]
        rfl
      exact Run.bind_of_panic hschedule _
  | some runAt =>
      let delayed :=
        action.deferral record context host.ids.draw.1 host.now runAt
      let drawn : Host := { host with ids := host.ids.draw.2 }
      let queued : Host :=
        (Effect.deferred delayed).apply (drawn.counted .scheduleDelayed)
      have hcall :
          (Host.scheduleDelayed delayed).run drawn =
            (.value (.ok ()), queued) := by
        rw [Host.scheduleDelayed,
          Host.call_run_of_calm (show drawn.faults = .calm from hcalm)]
        rfl
      have hschedule :
          schedule action record context host =
            (.value
                (.pending ("Scheduled for " ++ runAt.text)
                  (.object [("delayed_action_id", delayed.id.toJson),
                    ("run_at", runAt.toJson)])), queued) := by
        rw [schedule, Host.clock, Run.gets_bind, hrunAt]
        exact Run.bind_of_value hcall _
      exact Run.bind_of_value hschedule _

end Execution

/-! ## Running the order -/

namespace Engine

theorem logDelayed_of_calm
    (delayed : DelayedAction) (status : Status)
    (complete : LogEntry → LogEntry) {host : Host}
    (hcalm : host.faults = .calm) :
    ∃ id later,
      logDelayed delayed status complete host = (.value (), later) ∧
        Leads
          ((complete ((LogEntry.ofWorkflow id delayed.workflowId
            delayed.recordType delayed.recordId status host.now).forAction
              delayed.ruleId delayed.actionId)).logging host)
          host later := by
  let drawn : Host := { host with ids := host.ids.draw.2 }
  obtain ⟨later, hwrite, hleads⟩ :=
    writeLog_of_calm
      (complete ((LogEntry.ofWorkflow host.ids.draw.1 delayed.workflowId
        delayed.recordType delayed.recordId status host.now).forAction
          delayed.ruleId delayed.actionId))
      (show drawn.faults = .calm from hcalm)
  have hdrawn : Leads [] host drawn := .of_counters host _ _ _
  exact ⟨host.ids.draw.1, later, hwrite, hdrawn.trans hleads⟩

/-- Run from a record in which nothing counts as written, an action leaves as
changes the field that it wrote, if it wrote one. -/
theorem changes_of_faithful
    {performed : Performed} (h : performed.Faithful)
    (hclean : performed.before.dirty = []) :
    performed.after.changes.names = performed.writtenKey.toList ∧
      performed.after.recordType = performed.before.recordType ∧
      performed.after.id = performed.before.id := by
  unfold Performed.Faithful at h
  cases hkey : performed.writtenKey with
  | none =>
      simp only [hkey] at h
      rw [h]
      simp [Record.changes, hclean, Fields.names]
  | some key =>
      simp only [hkey] at h
      obtain ⟨value, hafter⟩ := h
      rw [hafter]
      simp [Record.changes, Record.store, hclean, insertName, Fields.names]

section RunDelayed

variable {delayed : DelayedAction} {host : Host}

/-- When there is nothing to run, only the entry that tells why is left. -/
theorem runDelayed_of_settled
    (hcalm : host.faults = .calm) {result : ActionResult}
    (htask : delayed.task host.store = .settled result) :
    ∃ id later,
      runDelayed delayed host = (.value result, later) ∧
        Leads ((delayed.entry id host.now result).logging host) host
          later := by
  unfold DelayedAction.task at htask
  unfold runDelayed
  cases hsnapshot : Record.ofSnapshot delayed.recordSnapshot with
  | error error =>
      rw [hsnapshot] at htask
      obtain rfl := DelayedTask.settled.inj htask
      obtain ⟨id, later, hlog, hlogged⟩ :=
        logDelayed_of_calm delayed .failed
          (fun entry => entry.withError
            ("unreadable record snapshot: " ++ error.message)) hcalm
      exact ⟨id, later, Run.bind_of_value hlog _, hlogged⟩
  | ok record =>
      rw [hsnapshot] at htask
      have hload := Host.loadAction_of_calm delayed.actionId hcalm
      let loaded := host.counted .loadAction
      have hcounted : Leads [] host loaded := .of_counters host _ _ _
      cases hfound :
          (host.store.action? delayed.actionId).filter Action.isActive with
      | some action => simp [hfound] at htask
      | none =>
          simp only [hfound] at htask
          obtain rfl := DelayedTask.settled.inj htask
          obtain ⟨id, later, hlog, hlogged⟩ :=
            logDelayed_of_calm delayed .skipped
              (fun entry => entry.withDetails
                "action no longer exists or is inactive")
              (show loaded.faults = .calm from hcalm)
          refine ⟨id, later, ?_, hcounted.trans hlogged⟩
          refine (Run.bind_of_value hload _).trans ?_
          dsimp only
          rw [hfound]
          exact Run.bind_of_value hlog _

/-- An action that is found runs as it would at once on the record of the
snapshot; then there is its entry, and what it wrote is saved. -/
theorem runDelayed_of_perform
    (hcalm : host.faults = .calm) {action : Action} {record : Record}
    (htask : delayed.task host.store = .perform action record) :
    ∃ result written ran id later,
      Execution.executeNow action record delayed.context host =
          (.value (result, written), ran) ∧
        runDelayed delayed host = (.value result, later) ∧
        Leads ((delayed.entry id host.now result).logging host ++ written.saving)
          ran later := by
  obtain ⟨⟨result, written⟩, ran, hnow⟩ :=
    Execution.executeNow_ends action record delayed.context host
  have hacts := Execution.acts_executeNow action record delayed.context
  obtain ⟨effects, hatOnce, hran⟩ := hacts.leads host
  rw [hnow] at hran
  -- loading the action counts a call, which the action does not see
  let loaded := host.counted .loadAction
  obtain ⟨left, hblind⟩ := hacts.blind_calls hcalm loaded.calls
  rw [hnow] at hblind
  let counted := ran.withCounters ran.ids left ran.patience
  have hcounted : Leads [] ran counted := .of_counters ran _ _ _
  have hcalmCounted : counted.faults = .calm := by
    rw [(hran.trans hcounted).faults, hcalm]
  obtain ⟨id, logged, hlog, hlogged⟩ :=
    logDelayed_of_calm delayed result.status
      (fun entry => entry.withResult result) hcalmCounted
  have hcalmLogged : logged.faults = .calm := by
    rw [hlogged.faults, hcalmCounted]
  obtain ⟨answer, last, hsave, hsaved⟩ := saveWrites_of_calm written hcalmLogged
  refine ⟨result, written, ran, id, last, hnow, ?_, ?_⟩
  · unfold DelayedAction.task at htask
    unfold runDelayed
    cases hsnapshot : Record.ofSnapshot delayed.recordSnapshot with
    | error error => simp [hsnapshot] at htask
    | ok found =>
        rw [hsnapshot] at htask
        cases hfound :
            (host.store.action? delayed.actionId).filter Action.isActive with
        | none => simp [hfound] at htask
        | some other =>
            simp only [hfound] at htask
            obtain ⟨rfl, rfl⟩ := DelayedTask.perform.inj htask
            have hload := Host.loadAction_of_calm delayed.actionId hcalm
            refine (Run.bind_of_value hload _).trans ?_
            dsimp only
            rw [hfound]
            refine (Run.bind_of_value hblind _).trans ?_
            refine (Run.bind_of_value hlog _).trans ?_
            exact Run.bind_of_value hsave _
  · have hlogging : ∀ entry : LogEntry,
        entry.logging counted = entry.logging host := by
      intro entry
      have hfails : counted.store.logWritesFail = host.store.logWritesFail :=
        hran.logWritesFail
      rw [LogEntry.logging, hfails, LogEntry.logging]
    have hsame : counted.now = host.now := hran.now
    rw [hsame, hlogging] at hlogged
    exact (hcounted.trans hlogged).trans hsaved

/-- A delayed run ends with a result.  Beside the effects of an action and the
changes that it saves, it leaves the entry of its order. -/
theorem runDelayed_leads
    (delayed : DelayedAction) (hcalm : host.faults = .calm) :
    ∃ result id effects saves later,
      runDelayed delayed host = (.value result, later) ∧
        result.status ≠ .pending ∧
        (∀ effect ∈ effects, effect.AtOnce) ∧
        (∀ effect ∈ saves, effect.OfSave) ∧
        Leads
          (effects ++ ((delayed.entry id host.now result).logging host ++ saves))
          host later := by
  cases htask : delayed.task host.store with
  | settled result =>
      obtain ⟨id, later, hrun, hleads⟩ := runDelayed_of_settled hcalm htask
      refine ⟨result, id, [], [], later, hrun, ?_, by simp, by simp,
        by simpa using hleads⟩
      unfold DelayedAction.task at htask
      split at htask
      · obtain rfl := DelayedTask.settled.inj htask
        simp [ActionResult.failure]
      · split at htask
        · obtain rfl := DelayedTask.settled.inj htask
          simp [ActionResult.skipped]
        · simp at htask
  | perform action record =>
      obtain ⟨result, written, ran, id, later, hnow, hrun, hleads⟩ :=
        runDelayed_of_perform hcalm htask
      obtain ⟨effects, hatOnce, hran⟩ :=
        (Execution.acts_executeNow action record delayed.context).leads host
      rw [hnow] at hran
      refine ⟨result, id, effects, written.saving, later, hrun, ?_, hatOnce,
        written.ofSave_saving, hran.trans hleads⟩
      have hstatus : result.status = .success ∨ result.status = .failed :=
        Execution.yields_executeNow_status action record delayed.context host
          _ ran hnow
      rcases hstatus with hstatus | hstatus <;> simp [hstatus]

end RunDelayed

/-- Where nothing is disturbed and the action can still be loaded, its order
runs as the action would at once. -/
theorem runDelayed_endsAsNow
    {action : Action} (record : Record) (context : ExecutionContext)
    (id : Uuid) (now runAt : Time.Instant) {host : Host}
    (hcalm : host.faults = .calm)
    (hfound : host.store.action? action.id = some action)
    (hactive : action.isActive = true) :
    ∃ result written ran,
      EndsAsNow action record context host
        (runDelayed (action.deferral record context id now runAt) host)
        result written ran := by
  have htask :
      (action.deferral record context id now runAt).task host.store =
        .perform action record.clearChanges := by
    have hsnapshot :
        Record.ofSnapshot
            (action.deferral record context id now runAt).recordSnapshot =
          .ok record.clearChanges :=
      record.ofSnapshot_toJson
    have hloaded :
        (host.store.action?
            (action.deferral record context id now runAt).actionId).filter
              Action.isActive =
          some action := by
      simp [Action.deferral, hfound, hactive]
    rw [DelayedAction.task, hsnapshot]
    dsimp only
    rw [hloaded]
  obtain ⟨result, written, ran, entryId, last, hnow, hrun, hleads⟩ :=
    runDelayed_of_perform hcalm htask
  obtain ⟨effects, hatOnce, hran⟩ :=
    (Execution.acts_executeNow action record.clearChanges context).leads host
  have hfaithful :
      Performed.Faithful
        ⟨context, action, record.clearChanges, result, written⟩ :=
    (Execution.yields_executeNow action record.clearChanges context host _ ran
      hnow).2
  obtain ⟨hwrites, hidentity⟩ := changes_of_faithful hfaithful rfl
  refine ⟨result, written, ran, ?_⟩
  rw [hrun]
  exact
    { now := hnow
      ending := rfl
      effects := ⟨entryId, hleads⟩
      identity := hidentity
      writes := hwrites
      queue := by
        have hlast : last.queue = ran.queue := by
          refine hleads.queue_eq fun delayed hmem => ?_
          simp [LogEntry.logging, Record.saving] at hmem
        have hqueue : ran.queue = host.queue := by
          have hnone : ∀ delayed, .deferred delayed ∉ effects :=
            fun delayed hmem => hatOnce _ hmem
          have hnowQueue := hran.queue_eq hnone
          rw [← hnowQueue]
          exact congrArg (fun ended => ended.2.queue) hnow.symm
        exact hlast.trans hqueue }

/-- Where nothing is disturbed, an action with a delay goes to the queue without
touching anything else, or breaks off without touching anything when the end of
the delay is not represented.  In any later surroundings from which the action
can be loaded, its order runs as the action would at once. -/
theorem deferred_runs_as_now
    (action : Action) (record : Record) (context : ExecutionContext)
    (host later : Host) (hdelay : 0 < action.delayMinutes)
    (hdefers : host.defersActions = true) (hcalm : host.faults = .calm)
    (hlater : later.faults = .calm)
    (hfound : later.store.action? action.id = some action)
    (hactive : action.isActive = true) :
    (host.now.addSeconds (action.delayMinutes * 60) = none →
      Execution.execute action record context host = (.panic, host)) ∧
      ∀ runAt, host.now.addSeconds (action.delayMinutes * 60) = some runAt →
        ∃ delayed pending calls,
          pending.status = .pending ∧ delayed.runAt = runAt ∧
            Execution.execute action record context host =
              (.value (pending, record),
                { host with
                  ids := host.ids.draw.2, calls
                  queue := host.queue.schedule delayed }) ∧
            ∃ result written ran,
              EndsAsNow action record context later (runDelayed delayed later)
                result written ran := by
  have hexecute :=
    Execution.execute_of_delayed action record context hcalm hdefers hdelay
  constructor
  · intro hbeyond
    rw [hbeyond] at hexecute
    exact hexecute
  · intro runAt hrunAt
    rw [hrunAt] at hexecute
    exact ⟨_, _, _, rfl, rfl, hexecute,
      runDelayed_endsAsNow record context _ _ _ hlater hfound hactive⟩

/-- Escalates a ticket after five minutes. -/
def escalate : Action :=
  { Action.updateField (.numbered 3) "Status" "Escalated" with
    ruleId := .numbered 2
    delayMinutes := 5 }

def escalation : Workflow :=
  (Workflow.ofName (.numbered 1) "Escalation" "Ticket" .onCreate).withRule
    ((Rule.ofName (.numbered 2) "Escalate").withAction escalate)

def escalationContext : ExecutionContext :=
  ⟨escalation.id, escalate.ruleId, none, none⟩

/-- A new ticket, whose priority has been written. -/
def newTicket : Record :=
  ⟨"Ticket", "t-1", [("Priority", .int 1), ("Status", .string "New")], none,
    ["Priority"]⟩

theorem deferred_runs_as_now_escalation :
    let host : Host :=
      { Host.ofWorkflows [escalation] ⟨0, 0⟩ with defersActions := true }
    ∃ delayed pending calls,
      pending.status = .pending ∧ delayed.runAt = ⟨300, 0⟩ ∧
        Execution.execute escalate newTicket escalationContext host =
          (.value (pending, newTicket),
            { host with
              ids := host.ids.draw.2, calls
              queue := host.queue.schedule delayed }) ∧
        ∃ result written ran,
          EndsAsNow escalate newTicket escalationContext
            (.ofWorkflows [escalation] ⟨300, 0⟩)
            (runDelayed delayed (.ofWorkflows [escalation] ⟨300, 0⟩)) result
            written ran := by
  intro host
  exact (deferred_runs_as_now escalate newTicket escalationContext host
    (.ofWorkflows [escalation] ⟨300, 0⟩) (by decide) rfl rfl rfl rfl rfl).2
    ⟨300, 0⟩ (by decide)

/-- When writes to the log fail, a delayed run saves what it wrote and leaves no
entry; and in the last minute that is represented nothing can be put off by five
minutes. -/
theorem delayed_run_without_entry :
    let later : Host :=
      { Host.ofWorkflows [escalation] ⟨300, 0⟩ with
        store := { WorkflowStore.ofWorkflows [escalation] with
          logWritesFail := true } }
    let delayed :=
      escalate.deferral newTicket escalationContext (.numbered 4) ⟨0, 0⟩
        ⟨300, 0⟩
    let last : Host :=
      { Host.ofWorkflows [escalation]
          (.ofDate ⟨Time.lastYear, 12, 31⟩ 86340 0) with
        defersActions := true }
    later.faults = .calm ∧
      (later.store.action? escalate.id).map Action.isActive = some true ∧
      (runDelayed delayed later).2.store.logs.length = 0 ∧
      ((runDelayed delayed later).2.store.saved? "Ticket" "t-1").map
          Fields.names =
        some ["Status"] ∧
      (Execution.execute escalate newTicket escalationContext last).1 =
        .panic := by
  intro later delayed last
  have hbeyond :
      last.now.addSeconds (escalate.delayMinutes * 60) = none := by
    decide
  have hexecute :
      Execution.execute escalate newTicket escalationContext last =
        (.panic, last) := by
    rw [Execution.execute_of_delayed escalate newTicket escalationContext rfl
      rfl (by decide), hbeyond]
  exact ⟨rfl, rfl, by decide +kernel, by decide +kernel,
    congrArg Prod.fst hexecute⟩

end Engine

end RecordRules
