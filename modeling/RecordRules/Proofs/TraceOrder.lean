import RecordRules.Proofs.Places
import RecordRules.Proofs.SessionSteps

/-!
# What comes before an entry

However a run goes on and wherever it stops, the entry of a rule is handed to
the log only after an entry of each of its actions, and the entry of a workflow
only once its rules have been looked at, or need not be.  This is told of every
place of the trace, so that it holds of every run that is cut short.
-/

namespace RecordRules

open Session (Step)

/-- Every action was run and its entry handed to the log, in order. -/
inductive ActionsTold (workflowId ruleId : Uuid) :
    List Action → List Moment → Prop
  | none : ActionsTold workflowId ruleId [] []
  | next {action : Action} {rest : List Action} {performed : Performed}
      {entry : LogEntry} {moments : List Moment} :
      performed.action = action →
      entry.Tells workflowId (some ruleId) (some action.id) performed.after
        performed.result.status →
      ActionsTold workflowId ruleId rest moments →
        ActionsTold workflowId ruleId (action :: rest)
          (.asked false :: .performed performed :: .logged entry :: moments)

/-- Every rule was weighed, in order, and of each that matched the actions and
the rule itself were told. -/
inductive RulesTold (workflowId : Uuid) : List Rule → List Moment → Prop
  | none : RulesTold workflowId [] []
  | missed {rule : Rule} {rest : List Rule} {moments : List Moment} :
      RulesTold workflowId rest moments →
        RulesTold workflowId (rule :: rest)
          (.asked false :: .weighed rule false :: moments)
  | matched {rule : Rule} {rest : List Rule} {acted moments : List Moment}
      {entry : LogEntry} :
      ActionsTold workflowId rule.id rule.activeActions acted →
      entry.level = .rule → entry.ruleId = some rule.id →
      RulesTold workflowId rest moments →
        RulesTold workflowId (rule :: rest)
          (.asked false :: .weighed rule true :: acted ++
            .logged entry :: moments)

/-- What a run on the record has to have done before it hands an entry to the
log. -/
def Justified
    (record : Record) (trigger : TriggerType) (prior : Option Record)
    (before : List Moment) (entry : LogEntry) : Prop :=
  match entry.level with
  | .action =>
    ∃ earlier performed,
      before = earlier ++ [.performed performed] ∧
        entry.actionId = some performed.action.id ∧
        entry.status = performed.result.status
  | .rule =>
    ∃ earlier rule acted,
      before = earlier ++ .weighed rule true :: acted ∧
        entry.ruleId = some rule.id ∧
        ActionsTold entry.workflowId rule.id rule.activeActions acted
  | .workflow =>
    ∃ earlier workflow since,
      before = earlier ++ .began workflow :: since ∧
        entry.workflowId = workflow.id ∧
        (RulesTold workflow.id workflow.activeRules since ∨
          (entry.status = .skipped ∧ since = [] ∧
            ∃ present, Wrote (actionsOf earlier) record present ∧
              workflow.Unchanged trigger prior present) ∨
          (entry.status = .failed ∧
            entry.errorMessage = some "workflow evaluation panicked"))

/-- Every entry of the trace was handed to the log in its place. -/
def Sound
    (record : Record) (trigger : TriggerType) (prior : Option Record)
    (trace : List Moment) : Prop :=
  ∀ before entry after, trace = before ++ .logged entry :: after →
    Justified record trigger prior before entry

section Sound

variable {record : Record} {trigger : TriggerType} {prior : Option Record}
  {trace : List Moment}

theorem Sound.nil : Sound record trigger prior [] := by
  intro before entry after h
  simp at h

/-- A trace stays sound when its next moment is justified, should it be an
entry. -/
theorem Sound.snoc
    (h : Sound record trigger prior trace) {moment : Moment}
    (hmoment : ∀ entry, moment = .logged entry →
      Justified record trigger prior trace entry) :
    Sound record trigger prior (trace ++ [moment]) := by
  have hplaces := forall_places_snoc
    (P := fun before moment => ∀ entry, moment = .logged entry →
      Justified record trigger prior before entry)
    (fun before moment after hplace entry hentry =>
      h before entry after (hentry ▸ hplace)) hmoment
  intro before entry after hplace
  exact hplaces before _ after hplace entry rfl

theorem Sound.look
    (h : Sound record trigger prior trace) {moment : Moment}
    (hlook : entriesOf [moment] = []) :
    Sound record trigger prior (trace ++ [moment]) := by
  refine h.snoc fun entry hentry => ?_
  subst hentry
  simp [entriesOf, Moment.entry?] at hlook

theorem Justified.of_action
    {entry : LogEntry} {workflowId ruleId : Uuid} {performed : Performed}
    {present : Record}
    (htells : entry.Tells workflowId (some ruleId) (some performed.action.id)
      present performed.result.status) :
    Justified record trigger prior (trace ++ [.performed performed])
      entry := by
  have hlevel : entry.level = .action := by
    simp [LogEntry.level, htells.action]
  simp only [Justified, hlevel]
  exact ⟨trace, performed, rfl, htells.action, htells.status⟩

theorem Justified.of_rule
    {entry : LogEntry} {workflowId : Uuid} {rule : Rule} {status : Status}
    {acted : List Moment} {present : Record}
    (htells : entry.Tells workflowId (some rule.id) none present status)
    (htold : ActionsTold workflowId rule.id rule.activeActions acted) :
    Justified record trigger prior (trace ++ .weighed rule true :: acted)
      entry := by
  have hlevel : entry.level = .rule := by
    simp [LogEntry.level, htells.action, htells.rule]
  simp only [Justified, hlevel]
  rw [← htells.workflow] at htold
  exact ⟨trace, rule, acted, rfl, htells.rule, htold⟩

theorem Justified.of_workflow
    {entry : LogEntry} {workflow : Workflow} {status : Status}
    {since : List Moment} {present : Record}
    (htells : entry.Tells workflow.id none none present status)
    (hdone : RulesTold workflow.id workflow.activeRules since ∨
      (entry.status = .skipped ∧ since = [] ∧
        ∃ present, Wrote (actionsOf trace) record present ∧
          workflow.Unchanged trigger prior present) ∨
      (entry.status = .failed ∧
        entry.errorMessage = some "workflow evaluation panicked")) :
    Justified record trigger prior (trace ++ .began workflow :: since)
      entry := by
  have hlevel : entry.level = .workflow := by
    simp [LogEntry.level, htells.action, htells.rule]
  simp only [Justified, hlevel]
  exact ⟨trace, workflow, since, rfl, htells.workflow, hdone⟩

end Sound

/-! ## What completed parts of a run have told -/

namespace Engine

variable {context : TriggerContext} {session later : Session}

theorem log_value_told
    {workflowId : Uuid} {ruleId actionId : Option Uuid} {status : Status}
    {complete : LogEntry → LogEntry}
    (h : log workflowId status complete session = (.value (), later))
    (hcomplete : ∀ entry : LogEntry,
      entry.Tells workflowId none none session.record status →
        (complete entry).Tells workflowId ruleId actionId session.record
          status) :
    ∃ entry : LogEntry,
      later.trace = session.trace ++ [.logged entry] ∧
        entry.Tells workflowId ruleId actionId session.record status ∧
        later.record = session.record := by
  rw [log_apply] at h
  obtain rfl := congrArg Prod.snd h
  exact ⟨_, rfl, hcomplete _ (LogEntry.tells_ofWorkflow _ _), rfl⟩

theorem execute_value_told
    {action : Action} {execution : ExecutionContext} {result : ActionResult}
    (h : Session.execute action execution session = (.value result, later)) :
    ∃ performed : Performed,
      performed.action = action ∧ performed.result = result ∧
        later.trace = session.trace ++ [.performed performed] ∧
        later.record = performed.after := by
  rcases hexecute :
      Execution.execute action session.record execution session.host with
    ⟨done | _, host⟩
  · rw [execute_of_value hexecute] at h
    obtain ⟨rfl, rfl⟩ := by simpa using h
    exact ⟨_, rfl, rfl, rfl, rfl⟩
  · rw [execute_of_panic hexecute] at h
    simp at h

theorem runActions_told
    {workflowId ruleId : Uuid} {tally done : RuleTally}
    {actions : List Action}
    (h : runActions workflowId ruleId context tally actions session =
      (.value (some done), later)) :
    ∃ acted,
      later.trace = session.trace ++ acted ∧
        ActionsTold workflowId ruleId actions acted := by
  induction actions generalizing tally session with
  | nil =>
      obtain ⟨-, rfl⟩ := by simpa [runActions] using h
      exact ⟨[], by simp, .none⟩
  | cons action rest ih =>
      rw [runActions, Run.bind_of_value (isCancelled_apply context session)]
        at h
      cases hanswer : session.host.givesUp context with
      | true =>
          rw [hanswer, if_pos rfl] at h
          simp at h
      | false =>
          rw [hanswer, if_neg Bool.false_ne_true] at h
          obtain ⟨result, ran, hran, h⟩ := Run.bind_eq_value_iff.mp h
          obtain ⟨_, logged, hlogged, h⟩ := Run.bind_eq_value_iff.mp h
          obtain ⟨performed, haction, rfl, hranTrace, hranRecord⟩ :=
            execute_value_told hran
          obtain ⟨entry, hloggedTrace, htells, -⟩ :=
            log_value_told hlogged fun _ htells =>
              (htells.forAction ruleId action.id).withResult performed.result
          obtain ⟨acted, htrace, htold⟩ := ih h
          rw [hranRecord] at htells
          refine ⟨_, ?_, .next haction htells htold⟩
          rw [htrace, hloggedTrace, hranTrace]
          simp only [List.append_assoc, List.cons_append, List.nil_append]

theorem runRule_told
    {workflowId : Uuid} {rule : Rule} {done : RuleTally}
    (h : runRule workflowId context rule session =
      (.value (some done), later)) :
    ∃ acted entry,
      later.trace = session.trace ++ acted ++ [.logged entry] ∧
        ActionsTold workflowId rule.id rule.activeActions acted ∧
        entry.Tells workflowId (some rule.id) none later.record done.status := by
  rw [runRule, Session.count, Run.modify_bind] at h
  obtain ⟨tally?, acted, hacted, h⟩ := Run.bind_eq_value_iff.mp h
  cases tally? with
  | none => simp at h
  | some tally =>
      obtain ⟨_, logged, hlogged, h⟩ := Run.bind_eq_value_iff.mp h
      obtain ⟨rfl, rfl⟩ := by simpa using h
      obtain ⟨moments, htrace, htold⟩ := runActions_told hacted
      obtain ⟨entry, hloggedTrace, htells, hrecord⟩ :=
        log_value_told hlogged fun _ htells => htells.ruleEntry rule.id tally
      rw [← hrecord] at htells
      exact ⟨moments, entry, by rw [hloggedTrace, htrace], htold, htells⟩

theorem runRules_told
    {workflowId : Uuid} {prior : Option Record} {tally done : RulesTally}
    {rules : List Rule}
    (h : runRules workflowId prior context tally rules session =
      (.value (some done), later)) :
    ∃ since,
      later.trace = session.trace ++ since ∧
        RulesTold workflowId rules since := by
  induction rules generalizing tally session with
  | nil =>
      obtain ⟨-, rfl⟩ := by simpa [runRules] using h
      exact ⟨[], by simp, .none⟩
  | cons rule rest ih =>
      rw [runRules, Run.bind_of_value (isCancelled_apply context session)]
        at h
      cases hanswer : session.host.givesUp context with
      | true =>
          rw [hanswer, if_pos rfl] at h
          simp at h
      | false =>
          rw [hanswer, if_neg Bool.false_ne_true, Run.gets_bind,
            Session.remember, Run.modify_bind] at h
          split at h
          · rename_i hholds
            obtain ⟨tally?, ruled, hruled, h⟩ := Run.bind_eq_value_iff.mp h
            cases tally? with
            | none => simp at h
            | some ruleTally =>
                obtain ⟨acted, entry, hruledTrace, hacted, htells⟩ :=
                  runRule_told hruled
                obtain ⟨since, htrace, htold⟩ := ih h
                have hlevel : entry.level = .rule := by
                  simp [LogEntry.level, htells.action, htells.rule]
                refine ⟨_, ?_, .matched hacted hlevel htells.rule htold⟩
                rw [htrace, hruledTrace, hholds]
                simp
          · rename_i hholds
            obtain ⟨since, htrace, htold⟩ := ih h
            refine ⟨_, ?_, .missed htold⟩
            rw [htrace, (Bool.not_eq_true _).mp hholds]
            simp

/-! ## Every run keeps its trace sound -/

/-- The trace is sound, and the record is what the actions made of the one the
run was started on. -/
def KeepsOrder
    (record : Record) (trigger : TriggerType) (prior : Option Record)
    (session : Session) : Prop :=
  Sound record trigger prior session.trace ∧
    Wrote (actionsOf session.trace) record session.record

section KeepsOrder

variable {record : Record} {trigger : TriggerType} {prior : Option Record}
  (context)

theorem KeepsOrder.look
    (h : KeepsOrder record trigger prior session) (moment : Moment)
    (hlook : moment.IsLook) (host : Host) (outcome : TriggerOutcome) :
    KeepsOrder record trigger prior
      ⟨host, session.record, outcome, session.trace ++ [moment]⟩ := by
  refine ⟨h.1.look hlook.entriesOf, ?_⟩
  rw [actionsOf_append, hlook.actionsOf, List.append_nil]
  exact h.2

theorem KeepsOrder.count
    (h : KeepsOrder record trigger prior session) (outcome : TriggerOutcome) :
    KeepsOrder record trigger prior { session with outcome } := h

theorem KeepsOrder.isCancelled
    (h : KeepsOrder record trigger prior session) :
    KeepsOrder record trigger prior (isCancelled context session).2 := by
  rw [isCancelled_apply]
  exact h.look (.asked _) trivial _ _

theorem KeepsOrder.execute
    (h : KeepsOrder record trigger prior session) (action : Action)
    (execution : ExecutionContext) :
    KeepsOrder record trigger prior
      (Session.execute action execution session).2 := by
  rcases hexecute :
      Execution.execute action session.record execution session.host with
    ⟨done | _, host⟩
  · have hfaithful :=
      (Execution.yields_execute action session.record execution _ _ _
        hexecute).2
    rw [execute_of_value hexecute]
    refine ⟨h.1.look rfl, ?_⟩
    rw [actionsOf_append]
    exact h.2.append (.one _ hfaithful)
  · rw [execute_of_panic hexecute]
    exact h

/-- An entry may be handed to the log where it is justified. -/
theorem KeepsOrder.log
    (h : KeepsOrder record trigger prior session)
    (workflowId : Uuid) (status : Status) (complete : LogEntry → LogEntry)
    {ruleId actionId : Option Uuid}
    (hcomplete : ∀ entry : LogEntry,
      entry.Tells workflowId none none session.record status →
        (complete entry).Tells workflowId ruleId actionId session.record
          status)
    (hjustified : ∀ entry : LogEntry,
      entry = nextEntry workflowId status complete session →
      entry.Tells workflowId ruleId actionId session.record status →
        Justified record trigger prior session.trace entry) :
    KeepsOrder record trigger prior
      (log workflowId status complete session).2 := by
  rw [log_apply]
  refine ⟨h.1.snoc fun entry hmoment => ?_, ?_⟩
  · obtain rfl := by simpa using hmoment
    exact hjustified _ rfl (hcomplete _ (LogEntry.tells_ofWorkflow _ _))
  · rw [actionsOf_append, actionsOf_logged, List.append_nil]
    exact h.2

theorem KeepsOrder.runActions
    (h : KeepsOrder record trigger prior session)
    (workflowId ruleId : Uuid) (tally : RuleTally) (actions : List Action) :
    KeepsOrder record trigger prior
      (runActions workflowId ruleId context tally actions session).2 := by
  induction actions generalizing tally session with
  | nil => exact h
  | cons action rest ih =>
      apply Run.bind_state (h.isCancelled context)
      intro cancelled asked _ hasked
      cases cancelled with
      | true => exact hasked
      | false =>
          apply Run.bind_state
            (hasked.execute action (.ofTrigger workflowId ruleId context))
          intro result ran heq hran
          obtain ⟨performed, rfl, rfl, htrace, -⟩ := execute_value_told heq
          have hlogged := hran.log workflowId performed.result.status
            (fun entry =>
              (entry.forAction ruleId performed.action.id).withResult
                performed.result)
            (fun _ htells => (htells.forAction _ _).withResult _)
            (fun entry _ htells => by
              rw [htrace]
              exact .of_action htells)
          exact Run.bind_state hlogged fun _ logged _ hkeeps => ih hkeeps _

theorem KeepsOrder.runRule
    (h : KeepsOrder record trigger prior session) (workflowId : Uuid)
    {rule : Rule} {earlier : List Moment}
    (hweighed : session.trace = earlier ++ [.weighed rule true]) :
    KeepsOrder record trigger prior
      (runRule workflowId context rule session).2 := by
  rw [Engine.runRule, Session.count, Run.modify_bind]
  have hcounted := h.count
    { session.outcome with rulesMatched := session.outcome.rulesMatched + 1 }
  apply Run.bind_state
    (hcounted.runActions context workflowId rule.id .zero rule.activeActions)
  intro tally? acted heq hacted
  cases tally? with
  | none => exact hacted
  | some tally =>
      obtain ⟨moments, htrace, htold⟩ := runActions_told heq
      have hplace :
          acted.trace = earlier ++ .weighed rule true :: moments := by
        simpa [hweighed] using htrace
      have hlogged := hacted.log workflowId tally.status
        (ruleEntry rule.id tally)
        (fun _ htells => htells.ruleEntry rule.id tally)
        (fun entry _ htells => by
          rw [hplace]
          exact .of_rule htells htold)
      exact (Run.bind_pure_state _ _ acted).symm ▸ hlogged

theorem KeepsOrder.runRules
    (h : KeepsOrder record trigger prior session) (workflowId : Uuid)
    (tally : RulesTally) (rules : List Rule) :
    KeepsOrder record trigger prior
      (runRules workflowId prior context tally rules session).2 := by
  induction rules generalizing tally session with
  | nil => exact h
  | cons rule rest ih =>
      apply Run.bind_state (h.isCancelled context)
      intro cancelled asked _ hasked
      cases cancelled with
      | true => exact hasked
      | false =>
          have hweighed := fun holds =>
            hasked.look (.weighed rule holds) trivial asked.host asked.outcome
          rw [if_neg Bool.false_ne_true, Run.gets_bind, Session.remember,
            Run.modify_bind]
          cases Condition.listHolds rule.conditions rule.logic asked.record
              prior with
          | true =>
              apply Run.bind_state
                ((hweighed true).runRule context workflowId rfl)
              intro done ruled _ hruled
              cases done with
              | none => exact hruled
              | some done => exact ih hruled _
          | false => exact ih (hweighed false) tally

theorem KeepsOrder.finish
    (h : KeepsOrder record trigger prior session) {workflow : Workflow}
    (tally : RulesTally) {earlier since : List Moment}
    (hbegan : session.trace = earlier ++ .began workflow :: since)
    (htold : RulesTold workflow.id workflow.activeRules since) :
    KeepsOrder record trigger prior
      (finish workflow context tally session).2 := by
  have hjustified : ∀ (status : Status) (entry : LogEntry),
      entry.Tells workflow.id none none session.record status →
        Justified record trigger prior session.trace entry := by
    intro status entry htells
    rw [hbegan]
    exact .of_workflow htells (.inl htold)
  unfold Engine.finish
  split
  · rw [Run.bind_pure_state]
    exact h.log workflow.id .skipped _
      (fun _ htells => htells.withDetails _)
      fun entry _ htells => hjustified .skipped entry htells
  · have hcounted := h.count
      { session.outcome with
        workflowsMatched := session.outcome.workflowsMatched + 1 }
    rw [Session.count, Run.modify_bind]
    dsimp only
    split
    · rw [Run.bind_pure_state]
      exact hcounted.log workflow.id .success _
        (fun _ htells => htells.withDetails _)
        fun entry _ htells => hjustified .success entry htells
    · rw [Run.bind_pure_state]
      exact hcounted.log workflow.id .failed _
        (fun _ htells => (htells.withDetails _).withError _)
        fun entry _ htells => hjustified .failed entry htells

theorem KeepsOrder.weighRules
    (h : KeepsOrder record trigger prior session) {workflow : Workflow}
    {earlier : List Moment}
    (hbegan : session.trace = earlier ++ [.began workflow]) :
    KeepsOrder record trigger prior
      (weighRules workflow prior context session).2 := by
  apply Run.bind_state
    (h.runRules context workflow.id ⟨0, 0⟩ workflow.activeRules)
  intro tally? ruled heq hruled
  cases tally? with
  | none => exact hruled
  | some tally =>
      obtain ⟨since, htrace, htold⟩ := runRules_told heq
      have hplace : ruled.trace = earlier ++ .began workflow :: since := by
        simpa [hbegan] using htrace
      exact hruled.finish context tally hplace htold

/-- A workflow is passed over only if no monitored field changed. -/
theorem KeepsOrder.passOver
    (h : KeepsOrder record trigger prior session) {workflow : Workflow}
    {earlier : List Moment}
    (hbegan : session.trace = earlier ++ [.began workflow])
    (hunchanged : workflow.Unchanged trigger prior session.record) :
    KeepsOrder record trigger prior (passOver workflow session).2 := by
  have hearlier : Wrote (actionsOf earlier) record session.record := by
    have hwrote := h.2
    have hlook : Moment.IsLook (.began workflow) := trivial
    rw [hbegan, actionsOf_append, hlook.actionsOf, List.append_nil] at hwrote
    exact hwrote
  have hcounted := h.count
    { session.outcome with
      workflowsSkipped := session.outcome.workflowsSkipped + 1 }
  rw [Engine.passOver, Session.count, Run.modify_bind, Run.bind_pure_state]
  refine hcounted.log workflow.id .skipped _
    (fun _ htells => htells.withDetails _) fun entry _ htells => ?_
  change Justified record trigger prior session.trace entry
  rw [hbegan]
  exact .of_workflow htells
    (.inr (.inl ⟨htells.status, rfl, _, hearlier, hunchanged⟩))

theorem KeepsOrder.runWorkflow
    (h : KeepsOrder record trigger prior session) (workflow : Workflow) :
    KeepsOrder record trigger prior
      (runWorkflow workflow trigger prior context session).2 := by
  have hbegan := h.look (.began workflow) trivial session.host
    { session.outcome with
      workflowsEvaluated := session.outcome.workflowsEvaluated + 1 }
  rw [runWorkflow_apply]
  cases htriggered :
      isTriggeredBy workflow trigger session.record prior with
  | true =>
      rw [if_pos rfl]
      exact hbegan.weighRules context rfl
  | false =>
      have hunchanged := (isTriggeredBy_eq_false_iff _ _ _ _).mp htriggered
      rw [if_neg Bool.false_ne_true]
      exact hbegan.passOver rfl hunchanged

/-- A break is told by an entry that says so. -/
theorem KeepsOrder.runGuarded
    (h : KeepsOrder record trigger prior session) (workflow : Workflow) :
    KeepsOrder record trigger prior
      (runGuarded workflow trigger prior context session).2 := by
  have hguarded := h.runWorkflow context workflow
  obtain ⟨since, hbegan⟩ :=
    runWorkflow_begins workflow trigger prior context session
  rw [← Run.guarded_state] at hguarded hbegan
  apply Run.bind_state hguarded
  intro caught ran heq hran
  rw [heq] at hbegan
  cases caught with
  | some run => exact hran
  | none =>
      rw [Run.bind_pure_state]
      refine hran.log workflow.id .failed _ (fun _ htells => htells.withError _)
        fun entry hentry htells => ?_
      rw [hbegan]
      refine .of_workflow htells (.inr (.inr ⟨htells.status, ?_⟩))
      rw [hentry]
      rfl

theorem KeepsOrder.runWorkflows
    (h : KeepsOrder record trigger prior session)
    (workflows : List Workflow) :
    KeepsOrder record trigger prior
      (runWorkflows trigger prior context workflows session).2 := by
  induction workflows generalizing session with
  | nil => exact h
  | cons workflow rest ih =>
      apply Run.bind_state (h.isCancelled context)
      intro cancelled asked _ hasked
      cases cancelled with
      | true => exact hasked.count _
      | false =>
          apply Run.bind_state (hasked.runGuarded context workflow)
          intro run ran _ hran
          cases run with
          | cancelled => exact hran.count _
          | matched =>
              rw [goOn]
              split
              · exact hran
              · exact ih hran
          | skipped => exact ih hran
          | noMatch => exact ih hran

theorem sound_persist
    (h : Sound record trigger prior session.trace) :
    Sound record trigger prior (persist session).2.trace := by
  rcases persist_cases session with
    ⟨-, hpersist⟩ | ⟨-, answer, host, hpersist, -⟩ | ⟨-, host, hpersist, -⟩
  · rw [hpersist]
    exact h
  · rw [hpersist]
    exact h.look rfl
  · rw [hpersist]
    exact h

theorem KeepsOrder.runApplicable
    (h : KeepsOrder record trigger prior session) :
    Sound record trigger prior
      (runApplicable trigger prior context session).2.trace := by
  rw [runApplicable_apply]
  rcases (applicable session.record.recordType trigger).run session.host with
    ⟨(error | workflows) | _, host⟩
  · exact h.1
  · have hloaded : KeepsOrder record trigger prior { session with host } := h
    have hran := hloaded.runWorkflows context workflows
    exact Run.bind_state_of hran (fun _ hbroke => hbroke.1)
      fun _ _ _ hdone => sound_persist hdone.1
  · exact h.1

/-- Every entry of every run is handed to the log in its place. -/
theorem sound_runTrigger
    (engine : Engine) (host : Host) (record : Record) (trigger : TriggerType)
    (prior : Option Record) :
    Sound record trigger prior
      (engine.runTrigger trigger prior context (.begin host record)).2.trace := by
  have hbegin :
      KeepsOrder record trigger prior (.begin host record) :=
    ⟨.nil, .none record⟩
  unfold runTrigger
  split
  · apply Run.bind_state_of (hbegin.isCancelled context)
      (fun _ hbroke => hbroke.1)
    intro cancelled asked _ hasked
    cases cancelled with
    | true => exact hasked.1
    | false => exact hasked.runApplicable context
  · exact hbegin.1

end KeepsOrder

end Engine

end RecordRules
