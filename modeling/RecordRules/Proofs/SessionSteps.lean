import RecordRules.Engine.Basic
import RecordRules.Proofs.ActionEffects
import RecordRules.Proofs.ActionOutcomes

/-!
# Steps of a session

A run changes its session in few ways only: it looks at something, counts, runs
an action or writes an entry.  Each way is one step, with all that it may do to
surroundings, record and trace.  Whatever the loops over workflows, rules and
actions do, they get to where such steps lead.
-/

namespace RecordRules

open Host (Acts Effect Leads)

namespace Moment

/-- Was something only looked at? -/
def IsLook : Moment → Prop
  | .asked _ => True
  | .began _ => True
  | .weighed _ _ => True
  | _ => False

/-- Were changes handed to the store? -/
def IsSave : Moment → Prop
  | .saved _ _ => True
  | _ => False

def entry? : Moment → Option LogEntry
  | .logged entry => some entry
  | _ => none

def performed? : Moment → Option Performed
  | .performed done => some done
  | _ => none

def weighed? : Moment → Option (Rule × Bool)
  | .weighed rule holds => some (rule, holds)
  | _ => none

end Moment

/-- The entries handed to the log, in order. -/
def entriesOf (moments : List Moment) : List LogEntry :=
  moments.filterMap Moment.entry?

/-- The actions that were run, in order. -/
def actionsOf (moments : List Moment) : List Performed :=
  moments.filterMap Moment.performed?

/-- The rules whose conditions were looked at, in order. -/
def rulesOf (moments : List Moment) : List (Rule × Bool) :=
  moments.filterMap Moment.weighed?

@[simp] theorem entriesOf_append (first second : List Moment) :
    entriesOf (first ++ second) = entriesOf first ++ entriesOf second :=
  List.filterMap_append

@[simp] theorem actionsOf_append (first second : List Moment) :
    actionsOf (first ++ second) = actionsOf first ++ actionsOf second :=
  List.filterMap_append

@[simp] theorem rulesOf_append (first second : List Moment) :
    rulesOf (first ++ second) = rulesOf first ++ rulesOf second :=
  List.filterMap_append

@[simp] theorem rulesOf_asked (answer : Bool) (moments : List Moment) :
    rulesOf (.asked answer :: moments) = rulesOf moments := rfl

@[simp] theorem rulesOf_weighed
    (rule : Rule) (holds : Bool) (moments : List Moment) :
    rulesOf (.weighed rule holds :: moments) =
      (rule, holds) :: rulesOf moments := rfl

@[simp] theorem rulesOf_logged (entry : LogEntry) (moments : List Moment) :
    rulesOf (.logged entry :: moments) = rulesOf moments := rfl

@[simp] theorem mem_rulesOf
    {rule : Rule} {holds : Bool} {moments : List Moment} :
    (rule, holds) ∈ rulesOf moments ↔ .weighed rule holds ∈ moments := by
  rw [rulesOf, List.mem_filterMap]
  constructor
  · rintro ⟨moment, hmem, hweighed⟩
    cases moment with
    | weighed other found =>
        obtain ⟨rfl, rfl⟩ := by simpa [Moment.weighed?] using hweighed
        exact hmem
    | _ => simp [Moment.weighed?] at hweighed
  · exact fun hmem => ⟨_, hmem, rfl⟩

@[simp] theorem actionsOf_logged (entry : LogEntry) :
    actionsOf [.logged entry] = [] := rfl

@[simp] theorem actionsOf_saved
    (changes : Fields) (answer : Except WorkflowError Unit) :
    actionsOf [.saved changes answer] = [] := rfl

theorem Moment.IsLook.actionsOf {moment : Moment} (h : moment.IsLook) :
    actionsOf [moment] = [] := by
  cases moment <;> first | rfl | exact h.elim

theorem Moment.IsLook.entriesOf {moment : Moment} (h : moment.IsLook) :
    entriesOf [moment] = [] := by
  cases moment <;> first | rfl | exact h.elim

theorem Moment.IsLook.not_isSave {moment : Moment} (h : moment.IsLook) :
    ¬ moment.IsSave := by
  cases moment <;> first | exact id | exact h.elim

/-! ## What an entry tells -/

namespace LogEntry

/-- The entry is about the workflow, the rule and the action that are named,
and the record, and gives the status. -/
structure Tells
    (entry : LogEntry) (workflowId : Uuid) (ruleId actionId : Option Uuid)
    (record : Record) (status : Status) : Prop where
  workflow : entry.workflowId = workflowId
  rule : entry.ruleId = ruleId
  action : entry.actionId = actionId
  recordType : entry.recordType = record.recordType
  record : entry.recordId = record.id
  status : entry.status = status

section Tells

variable {entry : LogEntry} {workflowId : Uuid} {ruleId actionId : Option Uuid}
  {record : Record} {status : Status}

theorem tells_ofWorkflow (id : Uuid) (executedAt : Time.Instant) :
    (ofWorkflow id workflowId record.recordType record.id status
      executedAt).Tells workflowId none none record status :=
  ⟨rfl, rfl, rfl, rfl, rfl, rfl⟩

theorem Tells.forRule
    (h : entry.Tells workflowId ruleId actionId record status)
    (other : Uuid) :
    (entry.forRule other).Tells workflowId (some other) actionId record
      status :=
  ⟨h.workflow, rfl, h.action, h.recordType, h.record, h.status⟩

theorem Tells.forAction
    (h : entry.Tells workflowId ruleId actionId record status)
    (otherRule otherAction : Uuid) :
    (entry.forAction otherRule otherAction).Tells workflowId (some otherRule)
      (some otherAction) record status :=
  ⟨h.workflow, rfl, rfl, h.recordType, h.record, h.status⟩

theorem Tells.withError
    (h : entry.Tells workflowId ruleId actionId record status)
    (message : String) :
    (entry.withError message).Tells workflowId ruleId actionId record
      status :=
  ⟨h.workflow, h.rule, h.action, h.recordType, h.record, h.status⟩

theorem Tells.withDetails
    (h : entry.Tells workflowId ruleId actionId record status)
    (details : String) :
    (entry.withDetails details).Tells workflowId ruleId actionId record
      status :=
  ⟨h.workflow, h.rule, h.action, h.recordType, h.record, h.status⟩

theorem Tells.withResult
    (h : entry.Tells workflowId ruleId actionId record status)
    (result : ActionResult) :
    (entry.withResult result).Tells workflowId ruleId actionId record
      status := by
  have hduration :
      (entry.withDuration result.durationMs).Tells workflowId ruleId actionId
        record status :=
    ⟨h.workflow, h.rule, h.action, h.recordType, h.record, h.status⟩
  unfold LogEntry.withResult
  split
  · exact hduration.withError result.message
  · exact hduration.withDetails result.message

theorem Tells.ruleEntry
    (h : entry.Tells workflowId none none record status)
    (rule : Uuid) (tally : RuleTally) :
    (Engine.ruleEntry rule tally entry).Tells workflowId (some rule) none
      record status := by
  have hdetails := (h.forRule rule).withDetails tally.details
  unfold Engine.ruleEntry
  dsimp only
  split
  · exact hdetails.withError tally.failureText
  · exact hdetails

end Tells

end LogEntry

/-! ## The filter of monitored fields -/

/-- Did no monitored field of the workflow change with the update? -/
def Workflow.Unchanged
    (workflow : Workflow) (trigger : TriggerType) (prior : Option Record)
    (record : Record) : Prop :=
  trigger = .onUpdate ∧ workflow.triggerFields ≠ [] ∧
    ∀ earlier, prior = some earlier →
      record.changedFields earlier workflow.triggerFields = []

theorem Engine.isTriggeredBy_eq_false_iff
    (workflow : Workflow) (trigger : TriggerType) (prior : Option Record)
    (record : Record) :
    Engine.isTriggeredBy workflow trigger record prior = false ↔
      workflow.Unchanged trigger prior record := by
  unfold Engine.isTriggeredBy Workflow.Unchanged
  by_cases hmonitors : trigger = .onUpdate ∧ workflow.triggerFields ≠ []
  · rw [if_pos hmonitors]
    cases prior <;> simp [hmonitors]
  · rw [if_neg hmonitors]
    simp only [← and_assoc, hmonitors, false_and, Bool.true_eq_false]

/-! ## Writing an entry -/

/-- Every entry that is handed to the log of the surroundings gets there. -/
structure Host.KeepsLog (host : Host) : Prop where
  writesSucceed : host.store.logWritesFail = false
  undisturbed : ∀ index,
    host.faults .appendLog index ≠ .error ∧
      host.faults .appendLog index ≠ .panic

theorem Host.KeepsLog.of_leads
    {effects : List Effect} {before later : Host}
    (h : before.KeepsLog) (hleads : Leads effects before later) :
    later.KeepsLog := by
  constructor
  · rw [hleads.logWritesFail]
    exact h.writesSucceed
  · rw [hleads.faults]
    exact h.undisturbed

theorem storeEntry_apply (entry : LogEntry) (host : Host) :
    (Host.storeEntry entry).run host =
      if host.store.logWritesFail then
        (.value (.error
          (.collaborator "execution log" "log store unavailable")), host)
      else (.value (.ok ()), (Effect.logged entry).apply host) := by
  rw [Host.storeEntry, ExceptT.run_mk, Run.update_apply]
  cases host.store.logWritesFail <;> rfl

/-- An entry gets to the log or not; where the log is kept, it does, and the
writing ends. -/
theorem writeLog_leads (entry : LogEntry) (host : Host) :
    ∃ kept : Bool,
      Leads (if kept then [.logged entry] else []) host
          (writeLog entry host).2 ∧
        (host.KeepsLog →
          kept = true ∧ (writeLog entry host).1 = .value ()) := by
  obtain ⟨started, hstarted, hcall⟩ :=
    Host.call_run_cases .appendLog (Host.storeEntry entry) host
  rcases hcall with hcall | ⟨hfault, hcall⟩ | ⟨hfault, hcall⟩
  · rw [storeEntry_apply] at hcall
    cases hfails : started.store.logWritesFail with
    | true =>
        rw [hfails, if_pos rfl] at hcall
        have hwrite : writeLog entry host = _ := Run.bind_of_value hcall _
        rw [hwrite]
        refine ⟨false, hstarted, fun hkeeps => ?_⟩
        rw [(hkeeps.of_leads hstarted).writesSucceed] at hfails
        simp at hfails
    | false =>
        rw [hfails, if_neg Bool.false_ne_true] at hcall
        have hwrite : writeLog entry host = _ := Run.bind_of_value hcall _
        rw [hwrite]
        exact ⟨true, hstarted.trans (.of_effect started _),
          fun _ => ⟨rfl, rfl⟩⟩
  · have hwrite : writeLog entry host = _ := Run.bind_of_value hcall _
    rw [hwrite]
    exact ⟨false, hstarted,
      fun hkeeps => absurd hfault (hkeeps.undisturbed _).1⟩
  · have hwrite : writeLog entry host = _ := Run.bind_of_panic hcall _
    rw [hwrite]
    exact ⟨false, hstarted,
      fun hkeeps => absurd hfault (hkeeps.undisturbed _).2⟩

namespace Session

/-- One thing that a run does with its session. -/
inductive Step : Session → Session → Prop
  | counted (session : Session) (outcome : TriggerOutcome) :
      Step session { session with outcome }
  | looked (session : Session) (moment : Moment) (patience : Option Nat) :
      moment.IsLook →
        Step session
          { session with
            host := session.host.withPatience patience
            trace := session.trace ++ [moment] }
  | performed
      (session : Session) (performed : Performed) (host : Host)
      (effects : List Effect) :
      performed.before = session.record → performed.Faithful →
        performed.result.status ≠ .skipped →
        (∀ effect ∈ effects, effect.OfAction) →
        Leads effects session.host host →
          Step session
            ⟨host, performed.after,
              session.outcome.countAction performed.result.status,
              session.trace ++ [.performed performed]⟩
  | brokeOff (session : Session) (host : Host) (effects : List Effect) :
      (∀ effect ∈ effects, effect.OfAction) →
        Leads effects session.host host →
          Step session { session with host }
  | logged
      (session : Session) (entry : LogEntry) (host : Host) (kept : Bool) :
      Leads (if kept then [.logged entry] else []) session.host host →
        (session.host.KeepsLog → kept = true) →
          Step session
            { session with
              host, trace := session.trace ++ [.logged entry] }

/-- What a run adds from one session to another, as long as it does not save:
moments to the trace, effects to the surroundings, and the writes of its actions
to the record. -/
structure Adds
    (moments : List Moment) (effects : List Effect)
    (before later : Session) : Prop where
  trace : later.trace = before.trace ++ moments
  host : Leads effects before.host later.host
  record : Wrote (actionsOf moments) before.record later.record
  unsavedMoments : ∀ moment ∈ moments, ¬ moment.IsSave
  unsavedEffects : ∀ effect ∈ effects, ¬ effect.OfSave
  entries : (effects.filterMap Effect.entry?).Sublist (entriesOf moments)
  keptEntries : before.host.KeepsLog →
    effects.filterMap Effect.entry? = entriesOf moments

theorem Adds.refl (session : Session) : Adds [] [] session session where
  trace := by simp
  host := .refl session.host
  record := .none session.record
  unsavedMoments := by simp
  unsavedEffects := by simp
  entries := .refl _
  keptEntries := fun _ => rfl

theorem Adds.trans
    {firstMoments secondMoments : List Moment}
    {firstEffects secondEffects : List Effect} {a b c : Session}
    (hfirst : Adds firstMoments firstEffects a b)
    (hsecond : Adds secondMoments secondEffects b c) :
    Adds (firstMoments ++ secondMoments) (firstEffects ++ secondEffects)
      a c where
  trace := by rw [hsecond.trace, hfirst.trace, List.append_assoc]
  host := hfirst.host.trans hsecond.host
  record := by
    rw [actionsOf_append]
    exact hfirst.record.append hsecond.record
  unsavedMoments := by
    intro moment hmem
    rcases List.mem_append.mp hmem with hmem | hmem
    · exact hfirst.unsavedMoments moment hmem
    · exact hsecond.unsavedMoments moment hmem
  unsavedEffects := by
    intro effect hmem
    rcases List.mem_append.mp hmem with hmem | hmem
    · exact hfirst.unsavedEffects effect hmem
    · exact hsecond.unsavedEffects effect hmem
  entries := by
    rw [List.filterMap_append, entriesOf_append]
    exact hfirst.entries.append hsecond.entries
  keptEntries := by
    intro hkeeps
    rw [List.filterMap_append, entriesOf_append, hfirst.keptEntries hkeeps,
      hsecond.keptEntries (hkeeps.of_leads hfirst.host)]

theorem Adds.of_actions
    {moments : List Moment} {effects : List Effect} {before later : Session}
    (htrace : later.trace = before.trace ++ moments)
    (hhost : Leads effects before.host later.host)
    (hrecord : Wrote (actionsOf moments) before.record later.record)
    (hmoments : ∀ moment ∈ moments, ¬ moment.IsSave)
    (hentries : entriesOf moments = [])
    (hactions : ∀ effect ∈ effects, effect.OfAction) :
    Adds moments effects before later := by
  have hnone : effects.filterMap Effect.entry? = [] :=
    Effect.entries_eq_nil fun effect hmem => (hactions effect hmem).not_ofLog
  exact
    { trace := htrace
      host := hhost
      record := hrecord
      unsavedMoments := hmoments
      unsavedEffects := fun effect hmem => (hactions effect hmem).not_ofSave
      entries := by simp [hnone]
      keptEntries := fun _ => by rw [hnone, hentries] }

theorem Step.adds {before later : Session} (h : Step before later) :
    ∃ moments effects, Adds moments effects before later := by
  cases h with
  | counted outcome =>
      exact ⟨[], [], .of_actions (by simp) (.refl _) (.none _) (by simp) rfl
        (by simp)⟩
  | looked moment patience hlook =>
      refine ⟨[moment], [], .of_actions rfl (.of_counters _ _ _ _) ?_ ?_
        hlook.entriesOf (by simp)⟩
      · rw [hlook.actionsOf]
        exact .none before.record
      · intro other hmem
        rw [List.mem_singleton.mp hmem]
        exact hlook.not_isSave
  | performed done host effects hbefore hfaithful hskipped hactions hleads =>
      refine ⟨[.performed done], effects, .of_actions rfl hleads ?_
        (by simp [Moment.IsSave]) rfl hactions⟩
      rw [← hbefore]
      exact .one done hfaithful
  | brokeOff host effects hactions hleads =>
      exact ⟨[], effects, .of_actions (by simp) hleads (.none _) (by simp) rfl
        hactions⟩
  | logged entry host kept hleads hkept =>
      refine ⟨[.logged entry], if kept then [.logged entry] else [], ?_⟩
      exact
        { trace := rfl
          host := hleads
          record := .none _
          unsavedMoments := by simp [Moment.IsSave]
          unsavedEffects := by cases kept <;> simp [Effect.OfSave]
          entries := by
            cases kept <;> simp [entriesOf, Moment.entry?, Effect.entry?]
          keptEntries := fun hkeeps => by
            simp [hkept hkeeps, entriesOf, Moment.entry?, Effect.entry?] }

theorem adds_of_steps
    {before later : Session} (h : Relation.ReflTransGen Step before later) :
    ∃ moments effects, Adds moments effects before later := by
  induction h with
  | refl => exact ⟨[], [], .refl before⟩
  | tail _ hstep ih =>
      obtain ⟨moments, effects, hadds⟩ := ih
      obtain ⟨newMoments, newEffects, hnew⟩ := hstep.adds
      exact ⟨_, _, hadds.trans hnew⟩

end Session

/-! ## What the parts of a run do -/

/-- Is the next question for cancellation answered with yes? -/
def Host.givesUp (host : Host) (context : TriggerContext) : Bool :=
  context.cancellable && host.patience == some 0

/-- The patience left after one more question. -/
def Host.patienceLeft (host : Host) (context : TriggerContext) : Option Nat :=
  if context.cancellable then host.patience.map (· - 1) else host.patience

theorem Host.isCancelled_apply (context : TriggerContext) (host : Host) :
    Host.isCancelled context host =
      (.value (host.givesUp context),
        host.withPatience (host.patienceLeft context)) := by
  unfold Host.isCancelled Host.givesUp Host.patienceLeft
  cases context.cancellable with
  | false => rfl
  | true =>
      obtain ⟨_, _, _, _, _, _, _, _, _, patience, _, _⟩ := host
      rcases patience with _ | (_ | rest) <;> rfl

namespace Engine

open Session (Step)

theorem isCancelled_apply (context : TriggerContext) (session : Session) :
    isCancelled context session =
      (.value (session.host.givesUp context),
        { session with
          host := session.host.withPatience
            (session.host.patienceLeft context)
          trace := session.trace ++
            [.asked (session.host.givesUp context)] }) := by
  unfold isCancelled Session.onHost
  rw [Run.bind_of_value (by
    rw [Run.within_apply, Host.isCancelled_apply])]
  rfl

/-- The entry that is about to be handed to the log. -/
def nextEntry
    (workflowId : Uuid) (status : Status) (complete : LogEntry → LogEntry)
    (session : Session) : LogEntry :=
  complete (.ofWorkflow session.host.ids.draw.1 workflowId
    session.record.recordType session.record.id status session.host.now)

def drawn (session : Session) : Host :=
  { session.host with ids := session.host.ids.draw.2 }

theorem log_apply
    (workflowId : Uuid) (status : Status) (complete : LogEntry → LogEntry)
    (session : Session) :
    log workflowId status complete session =
      ((writeLog (nextEntry workflowId status complete session)
          (drawn session)).1,
        { session with
          host := (writeLog (nextEntry workflowId status complete session)
            (drawn session)).2
          trace := session.trace ++
            [.logged (nextEntry workflowId status complete session)] }) := rfl

theorem execute_of_value
    {action : Action} {context : ExecutionContext} {session : Session}
    {done : ActionResult × Record} {host : Host}
    (h : Execution.execute action session.record context session.host =
      (.value done, host)) :
    Session.execute action context session =
      (.value done.1,
        ⟨host, done.2, session.outcome.countAction done.1.status,
          session.trace ++
            [.performed ⟨context, action, session.record, done.1, done.2⟩]⟩) := by
  unfold Session.execute Session.onHost
  rw [Run.gets_bind, Run.bind_of_value (by rw [Run.within_apply, h])]
  rfl

theorem execute_of_panic
    {action : Action} {context : ExecutionContext} {session : Session}
    {host : Host}
    (h : Execution.execute action session.record context session.host =
      (.panic, host)) :
    Session.execute action context session =
      (.panic, { session with host }) := by
  unfold Session.execute Session.onHost
  rw [Run.gets_bind, Run.bind_of_panic (by rw [Run.within_apply, h])]

def takenUp (workflow : Workflow) (session : Session) : Session :=
  { session with
    outcome :=
      { session.outcome with
        workflowsEvaluated := session.outcome.workflowsEvaluated + 1 }
    trace := session.trace ++ [.began workflow] }

theorem runWorkflow_apply
    (workflow : Workflow) (trigger : TriggerType) (prior : Option Record)
    (context : TriggerContext) (session : Session) :
    runWorkflow workflow trigger prior context session =
      (if isTriggeredBy workflow trigger session.record prior then
        weighRules workflow prior context
      else passOver workflow) (takenUp workflow session) := rfl

/-! ## Every part of a run goes by steps -/

theorem reaches_isCancelled (context : TriggerContext) :
    Run.Reaches Step (isCancelled context) := by
  refine .of_step fun session => ?_
  rw [isCancelled_apply]
  exact .looked session _ _ trivial

theorem reaches_remember {moment : Moment} (hlook : moment.IsLook) :
    Run.Reaches Step (Session.remember moment) :=
  .of_step fun session => .looked session moment session.host.patience hlook

theorem reaches_count (change : TriggerOutcome → TriggerOutcome) :
    Run.Reaches Step (Session.count change) :=
  .of_step fun session => .counted session (change session.outcome)

theorem reaches_execute (action : Action) (context : ExecutionContext) :
    Run.Reaches Step (Session.execute action context) := by
  refine .of_step fun session => ?_
  obtain ⟨effects, hactions, hleads⟩ :=
    (Execution.acts_execute action session.record context).leads session.host
  rcases h : Execution.execute action session.record context session.host with
    ⟨done | _, host⟩
  · rw [h] at hleads
    rw [execute_of_value h]
    obtain ⟨hskipped, hfaithful⟩ :=
      Execution.yields_execute action session.record context _ _ _ h
    exact .performed session
      ⟨context, action, session.record, done.1, done.2⟩ host effects rfl
      hfaithful hskipped hactions hleads
  · rw [h] at hleads
    rw [execute_of_panic h]
    exact .brokeOff session host effects hactions hleads

theorem reaches_log
    (workflowId : Uuid) (status : Status)
    (complete : LogEntry → LogEntry) :
    Run.Reaches Step (log workflowId status complete) := by
  refine .of_step fun session => ?_
  rw [log_apply]
  have hdrawn : Leads [] session.host (drawn session) :=
    .of_counters session.host _ _ _
  obtain ⟨kept, hleads, hkept⟩ :=
    writeLog_leads (nextEntry workflowId status complete session)
      (drawn session)
  exact .logged session _ _ kept (hdrawn.trans hleads)
    fun hkeeps => (hkept (hkeeps.of_leads hdrawn)).1

theorem reaches_runActions
    (workflowId ruleId : Uuid) (context : TriggerContext) (tally : RuleTally)
    (actions : List Action) :
    Run.Reaches Step (runActions workflowId ruleId context tally actions) := by
  induction actions generalizing tally with
  | nil => exact .pure _
  | cons action rest ih =>
      apply Run.Reaches.bind (reaches_isCancelled context)
      intro cancelled
      cases cancelled with
      | true => exact .pure _
      | false =>
          apply Run.Reaches.bind (reaches_execute action _)
          intro result
          exact .bind (reaches_log workflowId _ _) fun _ => ih _

theorem reaches_runRule
    (workflowId : Uuid) (context : TriggerContext) (rule : Rule) :
    Run.Reaches Step (runRule workflowId context rule) := by
  apply Run.Reaches.bind (reaches_count _)
  intro _
  refine .bind (reaches_runActions workflowId rule.id context _ _)
    fun done => ?_
  cases done with
  | none => exact .pure _
  | some done => exact .bind (reaches_log workflowId _ _) fun _ => .pure _

theorem reaches_runRules
    (workflowId : Uuid) (prior : Option Record) (context : TriggerContext)
    (tally : RulesTally) (rules : List Rule) :
    Run.Reaches Step (runRules workflowId prior context tally rules) := by
  induction rules generalizing tally with
  | nil => exact .pure _
  | cons rule rest ih =>
      apply Run.Reaches.bind (reaches_isCancelled context)
      intro cancelled
      cases cancelled with
      | true => exact .pure _
      | false =>
          apply Run.Reaches.bind (.gets _)
          intro record
          refine .bind (reaches_remember trivial) fun _ => ?_
          split
          · refine .bind (reaches_runRule workflowId context rule)
              fun done => ?_
            cases done with
            | none => exact .pure _
            | some done => exact ih _
          · exact ih tally

theorem reaches_finish
    (workflow : Workflow) (context : TriggerContext) (tally : RulesTally) :
    Run.Reaches Step (finish workflow context tally) := by
  unfold finish
  split
  · exact .bind (reaches_log workflow.id _ _) fun _ => .pure _
  · refine .bind (reaches_count _) fun _ => ?_
    dsimp only
    split
    · exact .bind (reaches_log workflow.id _ _) fun _ => .pure _
    · exact .bind (reaches_log workflow.id _ _) fun _ => .pure _

theorem reaches_weighRules
    (workflow : Workflow) (prior : Option Record) (context : TriggerContext) :
    Run.Reaches Step (weighRules workflow prior context) := by
  apply Run.Reaches.bind (reaches_runRules workflow.id prior context _ _)
  intro tally
  cases tally with
  | none => exact .pure _
  | some tally => exact reaches_finish workflow context tally

theorem reaches_passOver (workflow : Workflow) :
    Run.Reaches Step (passOver workflow) :=
  .bind (reaches_count _) fun _ =>
    .bind (reaches_log workflow.id _ _) fun _ => .pure _

theorem reaches_runWorkflow
    (workflow : Workflow) (trigger : TriggerType) (prior : Option Record)
    (context : TriggerContext) :
    Run.Reaches Step (runWorkflow workflow trigger prior context) := by
  refine .bind (reaches_remember trivial) fun _ => ?_
  apply Run.Reaches.bind (reaches_count _)
  intro _
  apply Run.Reaches.bind (.gets _)
  intro record
  split
  · exact reaches_weighRules workflow prior context
  · exact reaches_passOver workflow

theorem runWorkflow_begins
    (workflow : Workflow) (trigger : TriggerType) (prior : Option Record)
    (context : TriggerContext) (session : Session) :
    ∃ since,
      (runWorkflow workflow trigger prior context session).2.trace =
        session.trace ++ .began workflow :: since := by
  rw [runWorkflow_apply]
  have hreaches :
      Relation.ReflTransGen Step (takenUp workflow session)
        ((if isTriggeredBy workflow trigger session.record prior then
          weighRules workflow prior context
        else passOver workflow) (takenUp workflow session)).2 := by
    split
    · exact reaches_weighRules workflow prior context _
    · exact reaches_passOver workflow _
  obtain ⟨since, effects, hadds⟩ := Session.adds_of_steps hreaches
  exact ⟨since, by simpa [takenUp] using hadds.trace⟩

theorem reaches_runGuarded
    (workflow : Workflow) (trigger : TriggerType) (prior : Option Record)
    (context : TriggerContext) :
    Run.Reaches Step (runGuarded workflow trigger prior context) := by
  refine .bind (reaches_runWorkflow workflow trigger prior context).guarded
    fun caught => ?_
  cases caught with
  | some run => exact .pure _
  | none => exact .bind (reaches_log workflow.id _ _) fun _ => .pure _

theorem reaches_markCancelled : Run.Reaches Step markCancelled :=
  reaches_count _

theorem reaches_goOn
    (workflow : Workflow) {rest : Run Session Unit}
    (hrest : Run.Reaches Step rest) (run : WorkflowRun) :
    Run.Reaches Step (goOn workflow rest run) := by
  cases run with
  | cancelled => exact reaches_markCancelled
  | matched =>
      rw [goOn]
      split
      · exact .pure _
      · exact hrest
  | skipped => exact hrest
  | noMatch => exact hrest

theorem reaches_runWorkflows
    (trigger : TriggerType) (prior : Option Record) (context : TriggerContext)
    (workflows : List Workflow) :
    Run.Reaches Step (runWorkflows trigger prior context workflows) := by
  induction workflows with
  | nil => exact .pure _
  | cons workflow rest ih =>
      apply Run.Reaches.bind (reaches_isCancelled context)
      intro cancelled
      cases cancelled with
      | true =>
          rw [if_pos rfl]
          exact reaches_markCancelled
      | false =>
          exact .bind (reaches_runGuarded workflow trigger prior context)
            (reaches_goOn workflow ih)

/-! ## Saving what was written -/

/-- The store takes the changes of a record, or the call fails or breaks off
without a trace. -/
theorem saveRecordChanges_cases
    (recordType recordId : String) (changes : Fields) (host : Host) :
    (∃ answer later,
      (Host.saveRecordChanges recordType recordId changes).run host =
          (.value answer, later) ∧
        ((answer = .ok () ∧
            Leads [.saved recordType recordId changes] host later) ∨
          (answer = .error (Host.injected .saveRecordChanges) ∧
            Leads [] host later))) ∨
      (∃ later,
        (Host.saveRecordChanges recordType recordId changes).run host =
            (.panic, later) ∧
          Leads [] host later ∧
          host.faults .saveRecordChanges (host.calls .saveRecordChanges) =
            .panic) := by
  obtain ⟨started, hstarted, hcall⟩ :=
    Host.call_run_cases .saveRecordChanges
      (Host.answer (Run.modify fun host =>
        { host with
          store := host.store.saveChanges recordType recordId changes })) host
  rcases hcall with hcall | ⟨-, hcall⟩ | ⟨hfault, hcall⟩
  · refine .inl ⟨_, _, hcall, .inl ⟨rfl, ?_⟩⟩
    exact hstarted.trans (.of_effect started _)
  · exact .inl ⟨_, _, hcall, .inr ⟨rfl, hstarted⟩⟩
  · exact .inr ⟨started, hcall, hstarted, hfault⟩

/-- Saving leaves a clean record alone.  Changes of another are handed to the
store and stay with the record unless the store takes them. -/
theorem persist_cases (session : Session) :
    (session.record.isDirty = false ∧
      persist session = (.value (), session)) ∨
    (session.record.isDirty = true ∧
      ∃ answer host,
        persist session =
            (.value (),
              { session with
                host
                record := session.record.afterSaving answer
                trace := session.trace ++
                  [.saved session.record.changes answer] }) ∧
          ((answer = .ok () ∧
              Leads [.saved session.record.recordType session.record.id
                session.record.changes] session.host host) ∨
            (answer = .error (Host.injected .saveRecordChanges) ∧
              Leads [] session.host host))) ∨
    (session.record.isDirty = true ∧
      ∃ host,
        persist session = (.panic, { session with host }) ∧
          Leads [] session.host host ∧
          session.host.faults .saveRecordChanges
            (session.host.calls .saveRecordChanges) = .panic) := by
  cases hdirty : session.record.isDirty with
  | false =>
      have hsaved :
          Session.onHost (saveWrites session.record) session =
            (.value none, session) := by
        rw [Session.onHost, Run.within_apply, saveWrites,
          if_neg (by simp [hdirty])]
        rfl
      refine .inl ⟨rfl, ?_⟩
      rw [persist, Run.gets_bind, Run.bind_of_value hsaved]
      rfl
  | true =>
      rcases saveRecordChanges_cases session.record.recordType
          session.record.id session.record.changes session.host with
        ⟨answer, host, hrun, hleads⟩ | ⟨host, hrun, hleads, hfault⟩
      · have hsaved :
            Session.onHost (saveWrites session.record) session =
              (.value (some answer), { session with host }) := by
          rw [Session.onHost, Run.within_apply, saveWrites, if_pos hdirty,
            Run.bind_of_value hrun]
          rfl
        refine .inr (.inl ⟨rfl, answer, host, ?_, hleads⟩)
        rw [persist, Run.gets_bind, Run.bind_of_value hsaved]
        rfl
      · have hsaved :
            Session.onHost (saveWrites session.record) session =
              (.panic, { session with host }) := by
          rw [Session.onHost, Run.within_apply, saveWrites, if_pos hdirty,
            Run.bind_of_panic hrun]
        refine .inr (.inr ⟨rfl, host, ?_, hleads, hfault⟩)
        rw [persist, Run.gets_bind, Run.bind_of_panic hsaved]

theorem persist_adds (session : Session) :
    ∃ moments effects,
      (persist session).2.trace = session.trace ++ moments ∧
        (∀ moment ∈ moments, moment.IsSave) ∧
        Leads effects session.host (persist session).2.host ∧
        (∀ effect ∈ effects, effect.OfSave) ∧
        (persist session).2.outcome = session.outcome := by
  rcases persist_cases session with
    ⟨-, hpersist⟩ | ⟨-, answer, host, hpersist, hanswer⟩ |
      ⟨-, host, hpersist, hleads, -⟩
  · rw [hpersist]
    exact ⟨[], [], by simp, by simp, .refl _, by simp, rfl⟩
  · rw [hpersist]
    rcases hanswer with ⟨-, hleads⟩ | ⟨-, hleads⟩
    · exact ⟨_, _, rfl, by simp [Moment.IsSave], hleads,
        by simp [Effect.OfSave], rfl⟩
    · exact ⟨_, _, rfl, by simp [Moment.IsSave], hleads, by simp, rfl⟩
  · rw [hpersist]
    exact ⟨[], [], by simp, by simp, hleads, by simp, rfl⟩

theorem persist_fields (session : Session) :
    (persist session).2.record.fields = session.record.fields := by
  rcases persist_cases session with
    ⟨-, hpersist⟩ | ⟨-, answer, host, hpersist, -⟩ | ⟨-, host, hpersist, -⟩
  · rw [hpersist]
  · rw [hpersist]
    cases answer <;> rfl
  · rw [hpersist]

/-! ## From the loading of workflows on -/

theorem acts_applicable (recordType : String) (trigger : TriggerType) :
    Acts .loading (applicable recordType trigger).run := by
  apply Acts.bind (Host.acts_loadWorkflows recordType trigger)
  intro answer
  cases answer with
  | ok loaded => exact .pure _
  | error error => exact .pure _

theorem applicable_leads
    (recordType : String) (trigger : TriggerType) (host : Host) :
    Leads [] host ((applicable recordType trigger).run host).2 := by
  obtain ⟨effects, hnone, hleads⟩ :=
    (acts_applicable recordType trigger).leads host
  obtain rfl := List.eq_nil_iff_forall_not_mem.mpr hnone
  exact hleads

/-- The workflows are run and what they wrote is saved, unless they could not
be loaded. -/
theorem runApplicable_apply
    (trigger : TriggerType) (prior : Option Record) (context : TriggerContext)
    (session : Session) :
    runApplicable trigger prior context session =
      match (applicable session.record.recordType trigger).run session.host with
      | (.panic, host) => (.panic, { session with host })
      | (.value (.error _), host) => (.value (), { session with host })
      | (.value (.ok workflows), host) =>
        (runWorkflows trigger prior context workflows >>= fun _ => persist)
          { session with host } := by
  unfold runApplicable Session.onHost
  rw [Run.gets_bind]
  rcases happlicable :
      (applicable session.record.recordType trigger).run session.host with
    ⟨(error | workflows) | _, host⟩
  · rw [Run.bind_of_value (by rw [Run.within_apply, happlicable])]
    rfl
  · rw [Run.bind_of_value (by rw [Run.within_apply, happlicable])]
  · rw [Run.bind_of_panic (by rw [Run.within_apply, happlicable])]

theorem runApplicable_of_loaded
    (trigger : TriggerType) (prior : Option Record) (context : TriggerContext)
    {session : Session} {workflows : List Workflow} {host : Host}
    (hloaded :
      (applicable session.record.recordType trigger).run session.host =
        (.value (.ok workflows), host)) :
    runApplicable trigger prior context session =
      (runWorkflows trigger prior context workflows >>= fun _ => persist)
        { session with host } := by
  rw [runApplicable_apply, hloaded]

/-! ## Whole runs -/

/-- A run that gets to the workflows goes by steps up to where it saves. -/
theorem runApplicable_steps
    (trigger : TriggerType) (prior : Option Record) (context : TriggerContext)
    (session : Session) :
    ∃ middle,
      Relation.ReflTransGen Step session middle ∧
        (runApplicable trigger prior context session = persist middle ∨
          (runApplicable trigger prior context session).2 = middle ∧
            ((runApplicable trigger prior context session).1 = .panic ∨
              ∃ error host,
                (applicable session.record.recordType trigger).run
                    session.host =
                  (.value (.error error), host))) := by
  rw [runApplicable_apply]
  have hleads :=
    applicable_leads session.record.recordType trigger session.host
  rcases happlicable :
      (applicable session.record.recordType trigger).run session.host with
    ⟨(error | workflows) | _, host⟩
  · rw [happlicable] at hleads
    refine ⟨{ session with host }, ?_, .inr ⟨rfl, .inr ⟨error, host, rfl⟩⟩⟩
    exact .single (.brokeOff session host [] (by simp) hleads)
  · rw [happlicable] at hleads
    have hloaded :
        Relation.ReflTransGen Step session { session with host } :=
      .single (.brokeOff session host [] (by simp) hleads)
    have hsteps := hloaded.trans
      (reaches_runWorkflows trigger prior context workflows _)
    rcases hran :
        runWorkflows trigger prior context workflows { session with host } with
      ⟨_ | _, middle⟩
    · rw [hran] at hsteps
      exact ⟨middle, hsteps, .inl (Run.bind_of_value hran _)⟩
    · rw [hran] at hsteps
      have hpanic := Run.bind_of_panic hran fun _ => persist
      dsimp only
      rw [hpanic]
      exact ⟨middle, hsteps, .inr ⟨rfl, .inl rfl⟩⟩
  · rw [happlicable] at hleads
    refine ⟨{ session with host }, ?_, .inr ⟨rfl, .inl rfl⟩⟩
    exact .single (.brokeOff session host [] (by simp) hleads)

/-- No workflow is run on the record: the engine is off, the run is cancelled
already, or the workflows cannot be loaded. -/
def RunsNothing
    (engine : Engine) (trigger : TriggerType) (context : TriggerContext)
    (session : Session) : Prop :=
  engine.enabled = false ∨ session.host.givesUp context = true ∨
    ∃ error host,
      (applicable session.record.recordType trigger).run
          (session.host.withPatience (session.host.patienceLeft context)) =
        (.value (.error error), host)

theorem runTrigger_of_disabled
    {engine : Engine} (hdisabled : engine.enabled = false)
    (trigger : TriggerType) (prior : Option Record) (context : TriggerContext)
    (session : Session) :
    engine.runTrigger trigger prior context session =
      (.value (), session) := by
  rw [runTrigger, if_neg (by simp [hdisabled])]
  rfl

theorem runTrigger_of_givesUp
    {engine : Engine} (henabled : engine.enabled = true)
    (trigger : TriggerType) (prior : Option Record)
    {context : TriggerContext} {session : Session}
    (hgivesUp : session.host.givesUp context = true) :
    engine.runTrigger trigger prior context session =
      (.value (),
        ⟨session.host.withPatience (session.host.patienceLeft context),
          session.record, { session.outcome with cancelled := true },
          session.trace ++ [.asked true]⟩) := by
  rw [runTrigger, if_pos henabled,
    Run.bind_of_value (isCancelled_apply context session), hgivesUp, if_pos rfl]
  rfl

theorem runTrigger_of_goesOn
    {engine : Engine} (henabled : engine.enabled = true)
    (trigger : TriggerType) (prior : Option Record)
    {context : TriggerContext} {session : Session}
    (hgivesUp : session.host.givesUp context = false) :
    engine.runTrigger trigger prior context session =
      runApplicable trigger prior context
        ⟨session.host.withPatience (session.host.patienceLeft context),
          session.record, session.outcome,
          session.trace ++ [.asked false]⟩ := by
  rw [runTrigger, if_pos henabled,
    Run.bind_of_value (isCancelled_apply context session), hgivesUp,
    if_neg Bool.false_ne_true]

/-- A run for an event goes by steps up to where it saves, unless it breaks off
or runs nothing. -/
theorem runTrigger_steps
    (engine : Engine) (trigger : TriggerType) (prior : Option Record)
    (context : TriggerContext) (session : Session) :
    ∃ middle,
      Relation.ReflTransGen Step session middle ∧
        (engine.runTrigger trigger prior context session = persist middle ∨
          (engine.runTrigger trigger prior context session).2 = middle ∧
            ((engine.runTrigger trigger prior context session).1 = .panic ∨
              engine.RunsNothing trigger context session)) := by
  cases henabled : engine.enabled with
  | false =>
      rw [runTrigger_of_disabled henabled]
      exact ⟨session, .refl, .inr ⟨rfl, .inr (.inl henabled)⟩⟩
  | true =>
      have hasked := reaches_isCancelled context session
      rw [isCancelled_apply] at hasked
      cases hgivesUp : session.host.givesUp context with
      | true =>
          rw [hgivesUp] at hasked
          rw [runTrigger_of_givesUp henabled trigger prior hgivesUp]
          exact ⟨_, hasked.trans (reaches_markCancelled _),
            .inr ⟨rfl, .inr (.inr (.inl hgivesUp))⟩⟩
      | false =>
          rw [hgivesUp] at hasked
          rw [runTrigger_of_goesOn henabled trigger prior hgivesUp]
          obtain ⟨middle, hsteps, hends⟩ :=
            runApplicable_steps trigger prior context _
          refine ⟨middle, hasked.trans hsteps, hends.imp_right ?_⟩
          rintro ⟨hmiddle, hreason⟩
          exact ⟨hmiddle, hreason.imp_right fun hload => .inr (.inr hload)⟩

theorem runAlone_steps
    (engine : Engine) (workflow : Workflow) (trigger : TriggerType)
    (context : TriggerContext) (session : Session) :
    ∃ middle,
      Relation.ReflTransGen Step session middle ∧
        (engine.runAlone workflow trigger context session = persist middle ∨
          (engine.runAlone workflow trigger context session).2 = middle ∧
            ((engine.runAlone workflow trigger context session).1 = .panic ∨
              (engine.enabled && workflow.isActive) = false)) := by
  unfold runAlone
  split
  · have hguarded :=
      reaches_runGuarded workflow trigger none context session
    rcases hran : runGuarded workflow trigger none context session with
      ⟨run | _, ran⟩
    · rw [hran] at hguarded
      rw [Run.bind_of_value hran]
      cases run with
      | cancelled =>
          exact ⟨_, hguarded.trans (reaches_markCancelled ran), .inl rfl⟩
      | skipped => exact ⟨ran, hguarded, .inl rfl⟩
      | noMatch => exact ⟨ran, hguarded, .inl rfl⟩
      | matched => exact ⟨ran, hguarded, .inl rfl⟩
    · rw [hran] at hguarded
      rw [Run.bind_of_panic hran]
      exact ⟨ran, hguarded, .inr ⟨rfl, .inl rfl⟩⟩
  · rename_i hoff
    exact ⟨session, .refl,
      .inr ⟨rfl, .inr ((Bool.not_eq_true _).mp hoff)⟩⟩

end Engine

end RecordRules
