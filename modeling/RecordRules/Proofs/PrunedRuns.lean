import RecordRules.Proofs.Evaluations
import RecordRules.Proofs.Selection

/-!
# Runs on what they reach

A run for an event sees nothing of the store but the workflows that it takes
up, and of these nothing but the active rules and actions.  On a store that
holds only these it does the same, moment by moment.
-/

namespace RecordRules

open Host (Acts)

/-- The rule without its inactive actions. -/
def Rule.pruned (rule : Rule) : Rule :=
  { rule with actions := rule.actions.filter Action.isActive }

theorem Rule.activeActions_pruned (rule : Rule) :
    rule.pruned.activeActions = rule.activeActions := by
  simp only [Rule.activeActions, Rule.pruned, List.filter_filter, Bool.and_self]

def Workflow.pruned (workflow : Workflow) : Workflow :=
  { workflow with
    rules := (workflow.rules.filter Rule.isActive).map Rule.pruned }

theorem Workflow.activeRules_pruned (workflow : Workflow) :
    workflow.pruned.activeRules = workflow.activeRules.map Rule.pruned := by
  have hactive : Rule.isActive ∘ Rule.pruned = Rule.isActive := rfl
  rw [Workflow.activeRules, Workflow.activeRules, Workflow.pruned,
    List.filter_map, hactive, List.filter_filter]
  simp only [Bool.and_self]
  exact (List.map_mergeSort (f := Rule.pruned) fun _ _ _ _ => rfl).symm

def Moment.pruned : Moment → Moment
  | .began workflow => .began workflow.pruned
  | .weighed rule holds => .weighed rule.pruned holds
  | moment => moment

namespace Session

variable {α β : Type}

/-- The session as it is on a store of other workflows that are pruned. -/
def keeping (session : Session) (kept : List Workflow) : Session :=
  { session with
    host := session.host.withWorkflows kept
    trace := session.trace.map Moment.pruned }

/-- On a store that keeps other workflows, the second computation does what the
first one does. -/
def Mirrors (kept : List Workflow) (x y : Run Session α) : Prop :=
  ∀ session,
    y (session.keeping kept) = ((x session).1, (x session).2.keeping kept)

variable {kept : List Workflow}

theorem Mirrors.pure (a : α) : Mirrors kept (pure a) (pure a) :=
  fun _ => rfl

theorem Mirrors.gets (view : Session → α)
    (hview : ∀ session, view (session.keeping kept) = view session) :
    Mirrors kept (Run.gets view) (Run.gets view) :=
  fun session => congrArg (fun a => (Ending.value a, _)) (hview session)

theorem Mirrors.modify (change : Session → Session)
    (hchange : ∀ session,
      change (session.keeping kept) = (change session).keeping kept) :
    Mirrors kept (Run.modify change) (Run.modify change) :=
  fun session => congrArg (Prod.mk _) (hchange session)

theorem Mirrors.bind
    {x y : Run Session α} {next other : α → Run Session β}
    (hx : Mirrors kept x y) (hnext : ∀ a, Mirrors kept (next a) (other a)) :
    Mirrors kept (x >>= next) (y >>= other) := by
  intro session
  have hfirst := hx session
  rcases hs : x session with ⟨a | _, middle⟩
  · rw [hs] at hfirst
    rw [Run.bind_of_value hs, Run.bind_of_value hfirst]
    exact hnext a middle
  · rw [hs] at hfirst
    rw [Run.bind_of_panic hs, Run.bind_of_panic hfirst]

theorem Mirrors.guarded
    {x y : Run Session α} (h : Mirrors kept x y) :
    Mirrors kept x.guarded y.guarded := by
  intro session
  have hsame := h session
  rcases hs : x session with ⟨a | _, later⟩
  · rw [hs] at hsame
    rw [Run.guarded_of_value hs, Run.guarded_of_value hsame]
  · rw [hs] at hsame
    rw [Run.guarded_of_panic hs, Run.guarded_of_panic hsame]

theorem Mirrors.onHost
    {scope : Host.Scope} {work : Run Host α} (h : Acts scope work)
    (hloads : ¬ scope.loads) :
    Mirrors kept (onHost work) (onHost work) := by
  intro session
  have hblind := h.blind_workflows hloads session.host kept
  rw [Session.onHost, Run.within_apply]
  exact congrArg
    (fun ended => (ended.1, { session.keeping kept with host := ended.2 }))
    hblind

theorem Mirrors.count (change : TriggerOutcome → TriggerOutcome) :
    Mirrors kept (count change) (count change) :=
  .modify _ fun _ => rfl

theorem Mirrors.remember (moment : Moment) :
    Mirrors kept (remember moment) (remember moment.pruned) := by
  intro session
  simp [Session.remember, Run.modify, keeping]

theorem mirrors_execute (action : Action) (context : ExecutionContext) :
    Mirrors kept (execute action context) (execute action context) := by
  refine .bind (.gets _ fun _ => rfl) fun before => ?_
  refine .bind (.onHost (Execution.acts_execute action before context) id)
    fun done => ?_
  refine .bind (.remember (.performed _)) fun _ => ?_
  exact .bind (.modify _ fun _ => rfl) fun _ => .pure _

end Session

namespace Engine

open Session (Mirrors mirrors_execute)

variable {kept : List Workflow} (context : TriggerContext)

theorem mirrors_log
    (workflowId : Uuid) (status : Status) (complete : LogEntry → LogEntry) :
    Mirrors kept (log workflowId status complete)
      (log workflowId status complete) := by
  refine .bind (.gets _ fun _ => rfl) fun record => ?_
  refine .bind (.onHost (acts_newEntry _ _ _ _) id) fun entry => ?_
  refine .bind (.remember (.logged _)) fun _ => ?_
  exact .onHost (acts_writeLog _) id

theorem mirrors_isCancelled :
    Mirrors kept (isCancelled context) (isCancelled context) := by
  intro session
  rw [isCancelled_apply, isCancelled_apply]
  simp only [Session.keeping, List.map_append]
  rfl

theorem mirrors_markCancelled :
    Mirrors kept markCancelled markCancelled :=
  .count _

theorem mirrors_runActions
    (workflowId ruleId : Uuid) (tally : RuleTally) (actions : List Action) :
    Mirrors kept (runActions workflowId ruleId context tally actions)
      (runActions workflowId ruleId context tally actions) := by
  induction actions generalizing tally with
  | nil => exact .pure _
  | cons action rest ih =>
      refine .bind (mirrors_isCancelled context) fun cancelled => ?_
      cases cancelled with
      | true => exact .pure none
      | false =>
          refine .bind (mirrors_execute action _) fun result => ?_
          exact .bind (mirrors_log workflowId _ _) fun _ => ih _

theorem mirrors_runRule (workflowId : Uuid) (rule : Rule) :
    Mirrors kept (runRule workflowId context rule)
      (runRule workflowId context rule.pruned) := by
  refine .bind (.count _) fun _ => ?_
  rw [Rule.activeActions_pruned]
  refine .bind (mirrors_runActions context workflowId rule.id _ _)
    fun tally? => ?_
  cases tally? with
  | none => exact .pure none
  | some done => exact .bind (mirrors_log workflowId _ _) fun _ => .pure _

theorem mirrors_runRules
    (workflowId : Uuid) (prior : Option Record) (tally : RulesTally)
    (rules : List Rule) :
    Mirrors kept (runRules workflowId prior context tally rules)
      (runRules workflowId prior context tally (rules.map Rule.pruned)) := by
  induction rules generalizing tally with
  | nil => exact .pure _
  | cons rule rest ih =>
      refine .bind (mirrors_isCancelled context) fun cancelled => ?_
      cases cancelled with
      | true => exact .pure none
      | false =>
          refine .bind (.gets _ fun _ => rfl) fun record => ?_
          refine .bind (.remember (.weighed rule _)) fun _ => ?_
          change Mirrors kept
            (if Condition.listHolds rule.conditions rule.logic record prior then
              _ else _)
            (if Condition.listHolds rule.conditions rule.logic record prior then
              _ else _)
          split
          · refine .bind (mirrors_runRule context workflowId rule)
              fun done? => ?_
            cases done? with
            | none => exact .pure none
            | some done => exact ih _
          · exact ih _

theorem mirrors_finish (workflow : Workflow) (tally : RulesTally) :
    Mirrors kept (finish workflow context tally)
      (finish workflow.pruned context tally) := by
  unfold finish
  rw [Workflow.activeRules_pruned, List.length_map]
  split
  · exact .bind (mirrors_log workflow.id _ _) fun _ => .pure _
  · refine .bind (.count _) fun _ => ?_
    dsimp only
    split
    · exact .bind (mirrors_log workflow.id _ _) fun _ => .pure _
    · exact .bind (mirrors_log workflow.id _ _) fun _ => .pure _

theorem mirrors_weighRules (workflow : Workflow) (prior : Option Record) :
    Mirrors kept (weighRules workflow prior context)
      (weighRules workflow.pruned prior context) := by
  unfold weighRules
  rw [Workflow.activeRules_pruned]
  refine .bind (mirrors_runRules context workflow.id prior _ _)
    fun tally? => ?_
  cases tally? with
  | none => exact .pure _
  | some tally => exact mirrors_finish context workflow tally

theorem mirrors_passOver (workflow : Workflow) :
    Mirrors kept (passOver workflow) (passOver workflow.pruned) :=
  .bind (.count _) fun _ =>
    .bind (mirrors_log workflow.id _ _) fun _ => .pure _

theorem mirrors_runWorkflow
    (workflow : Workflow) (trigger : TriggerType) (prior : Option Record) :
    Mirrors kept (runWorkflow workflow trigger prior context)
      (runWorkflow workflow.pruned trigger prior context) := by
  refine .bind (.remember (.began workflow)) fun _ => ?_
  refine .bind (.count _) fun _ => ?_
  refine .bind (.gets _ fun _ => rfl) fun record => ?_
  change Mirrors kept
    (if isTriggeredBy workflow trigger record prior then _ else _)
    (if isTriggeredBy workflow trigger record prior then _ else _)
  split
  · exact mirrors_weighRules context workflow prior
  · exact mirrors_passOver workflow

theorem mirrors_runGuarded
    (workflow : Workflow) (trigger : TriggerType) (prior : Option Record) :
    Mirrors kept (runGuarded workflow trigger prior context)
      (runGuarded workflow.pruned trigger prior context) := by
  refine .bind (mirrors_runWorkflow context workflow trigger prior).guarded
    fun caught => ?_
  cases caught with
  | some run => exact .pure run
  | none => exact .bind (mirrors_log workflow.id _ _) fun _ => .pure _

theorem mirrors_goOn
    (workflow : Workflow) {rest other : Run Session Unit}
    (h : Mirrors kept rest other) (run : WorkflowRun) :
    Mirrors kept (goOn workflow rest run) (goOn workflow.pruned other run) := by
  cases run with
  | cancelled => exact mirrors_markCancelled
  | matched =>
      change Mirrors kept (if workflow.stopOnMatch then _ else _)
        (if workflow.stopOnMatch then _ else _)
      split
      · exact .pure ()
      · exact h
  | skipped => exact h
  | noMatch => exact h

theorem mirrors_runWorkflows
    (trigger : TriggerType) (prior : Option Record)
    (workflows : List Workflow) :
    Mirrors kept (runWorkflows trigger prior context workflows)
      (runWorkflows trigger prior context
        (workflows.map Workflow.pruned)) := by
  induction workflows with
  | nil => exact .pure ()
  | cons workflow rest ih =>
      refine .bind (mirrors_isCancelled context) fun cancelled => ?_
      cases cancelled with
      | true => exact mirrors_markCancelled
      | false =>
          exact .bind (mirrors_runGuarded context workflow trigger prior)
            (mirrors_goOn workflow ih)

theorem mirrors_persist : Mirrors kept persist persist := by
  refine .bind (.gets _ fun _ => rfl) fun record => ?_
  refine .bind (.onHost (acts_saveWrites record) id) fun answer => ?_
  cases answer with
  | none => exact .pure ()
  | some answer =>
      exact .bind (.remember (.saved _ _)) fun _ => .modify _ fun _ => rfl

/-! ## Whole runs -/

theorem applicable_pruned
    {workflows loaded : List Workflow} {recordType : String}
    {trigger : TriggerType}
    (h : workflows <+: Workflow.applicable loaded recordType trigger) :
    Workflow.applicable (workflows.map Workflow.pruned) recordType trigger =
      workflows.map Workflow.pruned := by
  have hordered :=
    (Workflow.stableSort_applicable loaded recordType trigger).ordered
  refine Workflow.applicable_eq_self ?_ ?_
  · intro pruned hmem
    obtain ⟨workflow, hworkflow, rfl⟩ := List.mem_map.mp hmem
    change workflow.appliesTo recordType trigger = true
    exact Workflow.appliesTo_of_applicable (h.subset hworkflow)
  · exact List.pairwise_map.mpr (hordered.sublist h.sublist)

theorem persisted_trace (x : Run Session Unit) (session : Session) :
    ∃ tail,
      ((x >>= fun _ => persist) session).2.trace =
          (x session).2.trace ++ tail ∧
        ∀ moment ∈ tail, moment.IsSave := by
  rcases hx : x session with ⟨_ | _, later⟩
  · obtain ⟨moments, _, htrace, hsaves, -⟩ := persist_adds later
    rw [Run.bind_of_value hx]
    exact ⟨moments, htrace, hsaves⟩
  · rw [Run.bind_of_panic hx]
    exact ⟨[], by simp, by simp⟩

variable {context}
variable {trigger : TriggerType} {prior : Option Record} {session : Session}

/-- A run that sees of the chosen workflows only the first does the same on a
store that keeps only these, pruned. -/
theorem runApplicable_keeping
    {loaded workflows : List Workflow} {host : Host}
    (hchosen :
      (applicable session.record.recordType trigger).run session.host =
        (.value (.ok (Workflow.applicable loaded session.record.recordType
          trigger)), host))
    (hfirst : workflows <+:
      Workflow.applicable loaded session.record.recordType trigger)
    (hsame :
      runWorkflows trigger prior context workflows { session with host } =
        runWorkflows trigger prior context
          (Workflow.applicable loaded session.record.recordType trigger)
          { session with host }) :
    let kept := workflows.map Workflow.pruned
    runApplicable trigger prior context (session.keeping kept) =
      ((runApplicable trigger prior context session).1,
        (runApplicable trigger prior context session).2.keeping kept) := by
  intro kept
  have hkept :=
    applicable_withWorkflows (applicable_pruned hfirst) session.host
  rw [hchosen] at hkept
  have hready := runApplicable_of_loaded trigger prior context hchosen
  have hkeptReady :
      runApplicable trigger prior context (session.keeping kept) =
        (runWorkflows trigger prior context kept >>= fun _ => persist)
          (Session.keeping { session with host } kept) :=
    runApplicable_of_loaded trigger prior context hkept
  have hmirrors :
      Session.Mirrors kept
        (runWorkflows trigger prior context workflows >>= fun _ => persist)
        (runWorkflows trigger prior context kept >>= fun _ => persist) :=
    .bind (mirrors_runWorkflows context trigger prior workflows)
      fun _ => mirrors_persist
  -- first back to the unpruned workflows, then on to all that were chosen
  rw [hkeptReady, hmirrors, Run.bind_congr hsame, hready]

theorem runApplicable_evaluates
    {loaded : List Workflow} {host : Host} (hunasked : session.Unasked)
    (hnever :
      .asked true ∉ (runApplicable trigger prior context session).2.trace)
    (hloaded :
      (Host.loadWorkflows session.record.recordType trigger).run session.host =
        (.value (.ok loaded), host)) :
    let chosen :=
      Workflow.applicable loaded session.record.recordType trigger
    let ready : Session := { session with host }
    ∃ evaluations tail,
      (runApplicable trigger prior context session).2.trace =
          session.trace ++ Evaluation.told evaluations ++ tail ∧
        (∀ workflow, .began workflow ∉ tail) ∧
        (∀ evaluation ∈ evaluations, evaluation.Alone) ∧
        runApplicable trigger prior context session =
          (runWorkflows trigger prior context chosen >>= fun _ => persist)
            ready ∧
        GoesThrough
          ((runWorkflows trigger prior context chosen ready).1 = .panic)
          chosen evaluations ∧
        let kept :=
          (evaluations.map Evaluation.workflow).map Workflow.pruned
        runApplicable trigger prior context (session.keeping kept) =
          ((runApplicable trigger prior context session).1,
            (runApplicable trigger prior context session).2.keeping kept) := by
  intro chosen ready
  have hchosen :
      (applicable session.record.recordType trigger).run session.host =
        (.value (.ok chosen), host) := by
    rw [applicable_apply, hloaded]
  have hready :
      runApplicable trigger prior context session =
        (runWorkflows trigger prior context chosen >>= fun _ => persist)
          ready :=
    runApplicable_of_loaded trigger prior context hchosen
  obtain ⟨tail, htail, hsaves⟩ :=
    persisted_trace (runWorkflows trigger prior context chosen) ready
  rw [← hready] at htail
  have hnever' :
      .asked true ∉
        (runWorkflows trigger prior context chosen ready).2.trace := by
    intro hmem
    rw [htail] at hnever
    exact hnever (List.mem_append_left _ hmem)
  have hreadyUnasked : ready.Unasked := hunasked
  obtain ⟨evaluations, htrace, halone, hthrough, hsame⟩ :=
    runWorkflows_goesThrough trigger prior context chosen hreadyUnasked
      hnever'
  refine ⟨evaluations, tail, ?_, fun workflow hmem => hsaves _ hmem, halone,
    hready, hthrough, ?_⟩
  · rw [htail, htrace]
  · exact runApplicable_keeping hchosen hthrough.isPrefix hsame

/-- The session of a run that has been asked once whether to give up. -/
def askedOnce (host : Host) (record : Record) (context : TriggerContext) :
    Session :=
  ⟨host.withPatience (host.patienceLeft context), record, .zero,
    [.asked false]⟩

/-- The evaluations of a run for an event.  Of the workflows that are loaded it
evaluates those that apply, sorted, up to where it stops. -/
structure Selects
    (engine : Engine) (host : Host) (record : Record) (trigger : TriggerType)
    (prior : Option Record) (context : TriggerContext)
    (evaluations : List Evaluation) : Prop where
  told : ∃ tail,
    (engine.runTrigger trigger prior context (.begin host record)).2.trace =
        .asked false :: Evaluation.told evaluations ++ tail ∧
      ∀ workflow, .began workflow ∉ tail
  alone : ∀ evaluation ∈ evaluations, evaluation.Alone
  chosen : ∀ loaded later,
    (Host.loadWorkflows record.recordType trigger).run
          (askedOnce host record context).host =
        (.value (.ok loaded), later) →
      let ready := { askedOnce host record context with host := later }
      ∃ chosen,
        (∀ sorted,
          StableSort Workflow.executionOrder Workflow.inOrder
              (loaded.filter fun workflow =>
                workflow.appliesTo record.recordType trigger) sorted ↔
            sorted = chosen) ∧
          engine.runTrigger trigger prior context (.begin host record) =
            (runWorkflows trigger prior context chosen >>= fun _ => persist)
              ready ∧
          GoesThrough
            ((runWorkflows trigger prior context chosen ready).1 = .panic)
            chosen evaluations
  unloaded :
    (∀ loaded later,
      (Host.loadWorkflows record.recordType trigger).run
          (askedOnce host record context).host ≠
        (.value (.ok loaded), later)) →
      evaluations = []

/-- The workflow that is taken up at a moment. -/
def began? : Moment → Option Workflow
  | .began workflow => some workflow
  | _ => none

/-- The workflows that were taken up, in order. -/
def workflowsOf (moments : List Moment) : List Workflow :=
  moments.filterMap began?

@[simp] theorem workflowsOf_append (first second : List Moment) :
    workflowsOf (first ++ second) = workflowsOf first ++ workflowsOf second :=
  List.filterMap_append

@[simp] theorem workflowsOf_asked (answer : Bool) (rest : List Moment) :
    workflowsOf (.asked answer :: rest) = workflowsOf rest := rfl

@[simp] theorem workflowsOf_began (workflow : Workflow) (rest : List Moment) :
    workflowsOf (.began workflow :: rest) = workflow :: workflowsOf rest := rfl

theorem workflowsOf_eq_nil
    {moments : List Moment} (h : ∀ workflow, .began workflow ∉ moments) :
    workflowsOf moments = [] := by
  refine List.filterMap_eq_nil_iff.mpr fun moment hmem => ?_
  cases moment with
  | began workflow => exact absurd hmem (h workflow)
  | _ => rfl

theorem workflowsOf_told
    {evaluations : List Evaluation}
    (halone : ∀ evaluation ∈ evaluations, evaluation.Alone) :
    workflowsOf (Evaluation.told evaluations) =
      evaluations.map Evaluation.workflow := by
  induction evaluations with
  | nil => rfl
  | cons evaluation rest ih =>
      have hhead := workflowsOf_eq_nil (halone evaluation List.mem_cons_self)
      have hrest := ih fun other hmem =>
        halone other (List.mem_cons_of_mem evaluation hmem)
      rw [Evaluation.told] at hrest ⊢
      simp [hhead, hrest]

/-- What was evaluated can be read off the trace. -/
theorem Selects.workflowsOf_trace
    {engine : Engine} {host : Host} {record : Record}
    {evaluations : List Evaluation}
    (h : engine.Selects host record trigger prior context evaluations) :
    workflowsOf
        (engine.runTrigger trigger prior context
          (.begin host record)).2.trace =
      evaluations.map Evaluation.workflow := by
  obtain ⟨tail, htrace, htail⟩ := h.told
  rw [htrace]
  simp [workflowsOf_told h.alone, workflowsOf_eq_nil htail]

theorem runTrigger_of_never
    {engine : Engine} {host : Host} {record : Record}
    (henabled : engine.enabled = true)
    (hnever :
      .asked true ∉
        (engine.runTrigger trigger prior context
          (.begin host record)).2.trace) (kept : List Workflow) :
    engine.runTrigger trigger prior context (.begin host record) =
        runApplicable trigger prior context (askedOnce host record context) ∧
      engine.runTrigger trigger prior context
          (.begin (host.withWorkflows kept) record) =
        runApplicable trigger prior context
          ((askedOnce host record context).keeping kept) := by
  cases hgivesUp : host.givesUp context with
  | true =>
      have hsession : (Session.begin host record).host.givesUp context = true :=
        hgivesUp
      rw [runTrigger_of_givesUp henabled trigger prior hsession] at hnever
      exact absurd (by simp) hnever
  | false =>
      exact ⟨runTrigger_of_goesOn henabled trigger prior hgivesUp,
        runTrigger_of_goesOn henabled trigger prior hgivesUp⟩

theorem processTrigger_withWorkflows
    {engine : Engine} {host : Host} {record : Record} {kept : List Workflow}
    (h :
      engine.runTrigger trigger prior context
          (.begin (host.withWorkflows kept) record) =
        ((engine.runTrigger trigger prior context (.begin host record)).1,
          (engine.runTrigger trigger prior context
            (.begin host record)).2.keeping kept)) :
    engine.processTrigger record trigger prior context
        (host.withWorkflows kept) =
      ((engine.processTrigger record trigger prior context host).1,
        (engine.processTrigger record trigger prior context
          host).2.withWorkflows kept) := by
  unfold processTrigger Session.start
  rw [h]
  rcases engine.runTrigger trigger prior context (.begin host record) with
    ⟨_ | _, later⟩ <;> rfl

theorem runApplicable_unloaded
    (hunloaded : ∀ loaded later,
      (Host.loadWorkflows session.record.recordType trigger).run session.host ≠
        (.value (.ok loaded), later)) :
    (runApplicable trigger prior context session).2.trace = session.trace ∧
      runApplicable trigger prior context (session.keeping []) =
        ((runApplicable trigger prior context session).1,
          (runApplicable trigger prior context session).2.keeping []) := by
  have hnothing :
      Workflow.applicable [] session.record.recordType trigger = [] :=
    Workflow.applicable_eq_self (by simp) .nil
  have hkept :
      (applicable (session.keeping []).record.recordType trigger).run
        (session.keeping []).host = _ :=
    applicable_withWorkflows hnothing session.host
  rw [runApplicable_apply, runApplicable_apply, hkept, applicable_apply]
  rcases hload :
      (Host.loadWorkflows session.record.recordType trigger).run
        session.host with
    ⟨(error | loaded) | _, host⟩
  · exact ⟨rfl, rfl⟩
  · exact absurd hload (hunloaded loaded host)
  · exact ⟨rfl, rfl⟩

/-- A run for an event that is never told to give up evaluates the workflows
that apply, sorted, up to the first that matched, stops the rest and did not
break off.  On a store that holds only what it evaluated, without inactive rules
and actions, it comes to the same. -/
theorem processTrigger_onlyEvaluated
    (engine : Engine) (host : Host) (record : Record) (trigger : TriggerType)
    (prior : Option Record) (context : TriggerContext)
    (henabled : engine.enabled = true)
    (hnever :
      .asked true ∉
        (engine.runTrigger trigger prior context
          (.begin host record)).2.trace) :
    ∃ evaluations,
      engine.Selects host record trigger prior context evaluations ∧
        let kept :=
          (evaluations.map Evaluation.workflow).map Workflow.pruned
        engine.processTrigger record trigger prior context
            (host.withWorkflows kept) =
          ((engine.processTrigger record trigger prior context host).1,
            (engine.processTrigger record trigger prior context
              host).2.withWorkflows kept) := by
  have hrun := runTrigger_of_never henabled hnever
  let asked := askedOnce host record context
  by_cases hload : ∃ loaded later,
      (Host.loadWorkflows asked.record.recordType trigger).run asked.host =
        (.value (.ok loaded), later)
  · obtain ⟨loaded, later, hloaded⟩ := hload
    have hunasked : asked.Unasked := by
      simp [Session.Unasked, asked, askedOnce, TriggerOutcome.zero]
    rw [(hrun []).1] at hnever
    obtain ⟨evaluations, tail, htrace, htail, halone, hready, hthrough,
      hkeeping⟩ := runApplicable_evaluates hunasked hnever hloaded
    refine ⟨evaluations, ⟨⟨tail, ?_, htail⟩, halone, ?_,
      fun hnone => absurd hloaded (hnone loaded later)⟩, ?_⟩
    · rw [(hrun []).1, htrace]
      rfl
    · intro other last hother
      obtain ⟨rfl, rfl⟩ : loaded = other ∧ later = last := by
        simpa using hloaded.symm.trans hother
      exact ⟨_, fun _ => Workflow.stableSort_iff, (hrun []).1.trans hready,
        hthrough⟩
    · refine processTrigger_withWorkflows ?_
      rw [(hrun []).1, (hrun _).2]
      exact hkeeping
  · have hunloaded : ∀ loaded later,
        (Host.loadWorkflows asked.record.recordType trigger).run asked.host ≠
          (.value (.ok loaded), later) :=
      fun loaded later hloaded => hload ⟨loaded, later, hloaded⟩
    obtain ⟨htrace, hkeeping⟩ := runApplicable_unloaded hunloaded
    refine ⟨[], ⟨⟨[], ?_, by simp⟩, by simp, ?_, fun _ => rfl⟩, ?_⟩
    · rw [(hrun []).1, htrace]
      rfl
    · intro loaded later hloaded
      exact absurd hloaded (hunloaded loaded later)
    · refine processTrigger_withWorkflows ?_
      rw [(hrun []).1, (hrun _).2]
      exact hkeeping

def blankTicket : Record := .ofFields "Ticket" "t-1" []

def stamp : Action := .updateField (.numbered 7) "Stamp" "Seen"

/-- Stops the rest for every new ticket.  It has a rule and an action that are
off. -/
def halting : Workflow :=
  { ((Workflow.ofName (.numbered 1) "Halting" "Ticket" .onCreate).withRule
      ((Rule.ofName (.numbered 2) "Every ticket").withAction
        { stamp with isActive := false })).withRule
      { Rule.ofName (.numbered 3) "Never" with isActive := false } with
    stopOnMatch := true }

/-- The workflow that halts, without what is off in it. -/
def haltingBare : Workflow :=
  { (Workflow.ofName (.numbered 1) "Halting" "Ticket" .onCreate).withRule
      (Rule.ofName (.numbered 2) "Every ticket") with
    stopOnMatch := true }

def foreign : Workflow :=
  .ofName (.numbered 4) "Foreign" "Order" .onCreate

def following : Workflow :=
  { Workflow.ofName (.numbered 6) "Following" "Ticket" .onCreate with
    executionOrder := 1 }

/-- The workflow that halts stands behind the one that follows it. -/
def haltingHost : Host := .ofWorkflows [following, foreign, halting] ⟨0, 0⟩

theorem applicable_halting :
    Workflow.applicable [following, foreign, halting] "Ticket" .onCreate =
      [halting, following] := by
  simp [Workflow.applicable, Workflow.appliesTo, following, foreign, halting,
    Workflow.ofName, Workflow.withRule, List.mergeSort,
    List.MergeSort.Internal.splitInTwo]

theorem runTrigger_halting :
    Engine.runTrigger ⟨true⟩ .onCreate none .detached
        (.begin haltingHost blankTicket) =
      (runWorkflows .onCreate none .detached [halting, following] >>=
          fun _ => persist)
        ⟨haltingHost.counted .loadWorkflows, blankTicket, .zero,
          [.asked false]⟩ :=
  runTrigger_of_applicable rfl rfl rfl applicable_halting none

/-- Of the two workflows that apply the first halts and the second is cut off,
so that the store needs only the first, without what is off in it. -/
theorem processTrigger_onlyEvaluated_halting :
    Workflow.applicable haltingHost.store.workflows "Ticket" .onCreate =
        [halting, following] ∧
      (∃ evaluations,
        Engine.Selects ⟨true⟩ haltingHost blankTicket .onCreate none .detached
            evaluations ∧
          evaluations.map Evaluation.workflow = [halting]) ∧
      Engine.processTrigger ⟨true⟩ blankTicket .onCreate none .detached
          (haltingHost.withWorkflows [haltingBare]) =
        ((Engine.processTrigger ⟨true⟩ blankTicket .onCreate none .detached
            haltingHost).1,
          (Engine.processTrigger ⟨true⟩ blankTicket .onCreate none .detached
            haltingHost).2.withWorkflows [haltingBare]) := by
  have hnever :
      .asked true ∉
        (Engine.runTrigger ⟨true⟩ .onCreate none .detached
          (.begin haltingHost blankTicket)).2.trace := by
    intro hmem
    have hany :
        (Engine.runTrigger ⟨true⟩ .onCreate none .detached
          (.begin haltingHost blankTicket)).2.trace.any (fun moment =>
            match moment with
            | .asked answer => answer
            | _ => false) = false := by
      rw [runTrigger_halting]
      decide +kernel
    exact Bool.false_ne_true
      (hany.symm.trans (List.any_eq_true.mpr ⟨_, hmem, rfl⟩))
  have htaken :
      workflowsOf
          (Engine.runTrigger ⟨true⟩ .onCreate none .detached
            (.begin haltingHost blankTicket)).2.trace =
        [halting] := by
    rw [runTrigger_halting]
    with_unfolding_all rfl
  obtain ⟨evaluations, hselects, hsame⟩ :=
    processTrigger_onlyEvaluated ⟨true⟩ haltingHost blankTicket .onCreate none
      .detached rfl hnever
  have hevaluated := hselects.workflowsOf_trace.symm.trans htaken
  rw [hevaluated] at hsame
  exact ⟨applicable_halting, ⟨evaluations, hselects, hevaluated⟩, hsame⟩

/-- Halts as well, unless the later stamp of its second rule breaks it off. -/
def breaking : Workflow :=
  halting.withRule
    ((Rule.ofName (.numbered 5) "Later").withAction
      { stamp with delayMinutes := 5 })

/-- Actions are put off, but the queue breaks off. -/
def brokenQueue : Host :=
  { (Host.ofWorkflows [breaking, following] ⟨0, 0⟩).disturbed
      (FaultPlan.calm.always .scheduleDelayed .panic) with
    defersActions := true }

/-- A workflow that matched and would stop the rest does not stop it when its
evaluation breaks off. -/
theorem breaking_goesOn :
    let session :=
      (Engine.runTrigger ⟨true⟩ .onCreate none .detached
        (.begin brokenQueue blankTicket)).2
    Workflow.applicable brokenQueue.store.workflows "Ticket" .onCreate =
        [breaking, following] ∧
      breaking.stopOnMatch = true ∧
      (∃ rule ∈ breaking.rules,
        (rule.id, true) ∈
          (rulesOf session.trace).map fun weighed =>
            (weighed.1.id, weighed.2)) ∧
      session.outcome.cancelled = false ∧
      session.outcome.workflowsEvaluated = 2 ∧
      ∃ entry ∈ session.host.store.logs, entry.workflowId = following.id := by
  -- sorting is no computation that can be decided, so its results come first
  have hrules :
      breaking.activeRules = breaking.rules.filter Rule.isActive :=
    List.mergeSort_of_pairwise (by decide)
  have hworkflows :
      Workflow.applicable [breaking, following] "Ticket" .onCreate =
        [breaking, following] :=
    List.mergeSort_of_pairwise (by decide)
  have hrun :
      Engine.runTrigger ⟨true⟩ .onCreate none .detached
        (.begin brokenQueue blankTicket) = _ :=
    runTrigger_of_applicable rfl rfl rfl hworkflows none
  intro session
  have hsession : session = _ := congrArg Prod.snd hrun
  refine ⟨hworkflows, rfl, ?_⟩
  rw [hsession]
  simp only [runWorkflows, runGuarded, runWorkflow, weighRules, hrules]
  clear hrun hsession hworkflows hrules session
  decide +kernel

end Engine

end RecordRules
