import RecordRules.Proofs.CutRuns

/-!
# Which workflows are evaluated

A run that nobody cancels takes up the workflows it is given one after another.
It goes on after each of them, unless that workflow matched, was evaluated to
the end and stops the rest, or the run itself breaks off.  What comes after the
last workflow that was taken up is never looked at.
-/

namespace RecordRules

open Session (Step Tracks)

/-- The entry tells that the evaluation of a workflow broke off. -/
def LogEntry.TellsBreak (entry : LogEntry) : Prop :=
  entry.level = .workflow ∧
    entry.errorMessage = some "workflow evaluation panicked"

/-- A workflow that was taken up, and what happened then. -/
structure Evaluation where
  workflow : Workflow
  moments : List Moment

namespace Evaluation

/-- A rule of the workflow matched. -/
def Matched (evaluation : Evaluation) : Prop :=
  ∃ rule, .weighed rule true ∈ evaluation.moments

theorem matched_iff (evaluation : Evaluation) :
    evaluation.Matched ↔
      0 < (rulesOf evaluation.moments).countP Prod.snd := by
  rw [List.countP_pos_iff]
  constructor
  · rintro ⟨rule, hmem⟩
    exact ⟨(rule, true), mem_rulesOf.mpr hmem, rfl⟩
  · rintro ⟨⟨rule, _⟩, hmem, rfl⟩
    exact ⟨rule, mem_rulesOf.mp hmem⟩

/-- The evaluation broke off, of which the log was told. -/
def BrokeOff (evaluation : Evaluation) : Prop :=
  ∃ entry : LogEntry, .logged entry ∈ evaluation.moments ∧ entry.TellsBreak

/-- The workflow keeps the run from going on. -/
def Stops (evaluation : Evaluation) : Prop :=
  evaluation.workflow.stopOnMatch = true ∧ evaluation.Matched ∧
    ¬ evaluation.BrokeOff

def Alone (evaluation : Evaluation) : Prop :=
  ∀ workflow, .began workflow ∉ evaluation.moments

/-- The trace of evaluations, before each of which it was asked whether to give
up. -/
def told (evaluations : List Evaluation) : List Moment :=
  evaluations.flatMap fun evaluation =>
    .asked false :: .began evaluation.workflow :: evaluation.moments

/-- What is known of an evaluation from how it ended. -/
def EndsBy (evaluation : Evaluation) : Ending WorkflowRun → Prop
  | .value .matched => evaluation.Matched ∧ ¬ evaluation.BrokeOff
  | .value .skipped => ¬ evaluation.Matched
  | .value .noMatch => ¬ evaluation.Matched ∨ evaluation.BrokeOff
  | .value .cancelled => True
  | .panic => evaluation.BrokeOff

end Evaluation

/-- The evaluations go through the workflows up to the first that stops the
rest, unless the run broke off in the last of them. -/
inductive GoesThrough (brokeOff : Prop) :
    List Workflow → List Evaluation → Prop
  | done : GoesThrough brokeOff [] []
  | stopped {evaluation : Evaluation} (rest : List Workflow) :
      evaluation.Stops →
        GoesThrough brokeOff (evaluation.workflow :: rest) [evaluation]
  | cut {evaluation : Evaluation} (rest : List Workflow) :
      brokeOff → evaluation.BrokeOff →
        GoesThrough brokeOff (evaluation.workflow :: rest) [evaluation]
  | next {evaluation : Evaluation} {rest : List Workflow}
      {more : List Evaluation} :
      ¬ evaluation.Stops → GoesThrough brokeOff rest more →
        GoesThrough brokeOff (evaluation.workflow :: rest)
          (evaluation :: more)

theorem GoesThrough.isPrefix
    {brokeOff : Prop} {workflows : List Workflow}
    {evaluations : List Evaluation}
    (h : GoesThrough brokeOff workflows evaluations) :
    evaluations.map Evaluation.workflow <+: workflows := by
  induction h with
  | done => exact List.prefix_refl []
  | stopped rest _ => exact ⟨rest, rfl⟩
  | cut rest _ _ => exact ⟨rest, rfl⟩
  | next _ _ ih => exact (List.prefix_cons_inj _).mpr ih

/-! ## Moments of one kind -/

namespace Session

variable {α β : Type} {kind : Moment → Prop}

/-- All that the computation adds to the trace are moments of a kind. -/
def AddsOnly (kind : Moment → Prop) (x : Run Session α) : Prop :=
  ∀ session, ∃ moments,
    (x session).2.trace = session.trace ++ moments ∧
      ∀ moment ∈ moments, kind moment

theorem AddsOnly.silent
    {x : Run Session α}
    (h : ∀ session, (x session).2.trace = session.trace) :
    AddsOnly kind x :=
  fun session => ⟨[], by simpa using h session, by simp⟩

theorem AddsOnly.pure (a : α) : AddsOnly kind (pure a : Run Session α) :=
  .silent fun _ => rfl

theorem AddsOnly.bind
    {x : Run Session α} {next : α → Run Session β}
    (hx : AddsOnly kind x) (hnext : ∀ a, AddsOnly kind (next a)) :
    AddsOnly kind (x >>= next) := by
  intro session
  obtain ⟨first, hfirst, hkinds⟩ := hx session
  rcases hs : x session with ⟨a | _, middle⟩
  · rw [hs] at hfirst
    rw [Run.bind_of_value hs]
    obtain ⟨second, hsecond, hmore⟩ := hnext a middle
    refine ⟨first ++ second, ?_, ?_⟩
    · rw [hsecond, hfirst, List.append_assoc]
    · intro moment hmem
      rcases List.mem_append.mp hmem with hmem | hmem
      · exact hkinds moment hmem
      · exact hmore moment hmem
  · rw [hs] at hfirst
    rw [Run.bind_of_panic hs]
    exact ⟨first, hfirst, hkinds⟩

theorem AddsOnly.mono
    {other : Moment → Prop} {x : Run Session α} (hx : AddsOnly kind x)
    (h : ∀ moment, kind moment → other moment) :
    AddsOnly other x := by
  intro session
  obtain ⟨moments, htrace, hkinds⟩ := hx session
  exact ⟨moments, htrace, fun moment hmem => h moment (hkinds moment hmem)⟩

theorem AddsOnly.remember {moment : Moment} (h : kind moment) :
    AddsOnly kind (remember moment) :=
  fun _ => ⟨[moment], rfl, by simpa using h⟩

theorem AddsOnly.execute
    (h : ∀ performed, kind (.performed performed)) (action : Action)
    (context : ExecutionContext) :
    AddsOnly kind (execute action context) := by
  intro session
  rcases hexecute :
      Execution.execute action session.record context session.host with
    ⟨done | _, host⟩
  · rw [Engine.execute_of_value hexecute]
    exact ⟨_, rfl, by simpa using h _⟩
  · rw [Engine.execute_of_panic hexecute]
    exact ⟨[], by simp, by simp⟩

end Session

/-- Within a rule nothing is weighed, and no entry is about a workflow. -/
def Moment.OfRule : Moment → Prop
  | .asked _ => True
  | .performed _ => True
  | .logged entry => entry.level ≠ .workflow
  | _ => False

theorem rulesOf_eq_nil
    {moments : List Moment} (h : ∀ moment ∈ moments, moment.OfRule) :
    rulesOf moments = [] := by
  refine List.filterMap_eq_nil_iff.mpr fun moment hmem => ?_
  have hrule := h moment hmem
  cases moment <;> first | rfl | exact hrule.elim

/-- Within an evaluation that does not break off no workflow is taken up, and no
entry tells of a break. -/
def Moment.OfWorkflow : Moment → Prop
  | .began _ => False
  | .logged entry => ¬ entry.TellsBreak
  | _ => True

theorem Evaluation.not_brokeOff
    {workflow : Workflow} {moments : List Moment}
    (h : ∀ moment ∈ moments, moment.OfWorkflow) :
    ¬ BrokeOff ⟨workflow, moments⟩ := by
  rintro ⟨entry, hmem, htells⟩
  exact h _ hmem htells

theorem Moment.OfRule.ofWorkflow {moment : Moment} (h : moment.OfRule) :
    moment.OfWorkflow := by
  cases moment with
  | logged entry => exact fun hbreak => h hbreak.1
  | began workflow => exact h.elim
  | _ => trivial

namespace Engine

open Session (AddsOnly)

variable {kind : Moment → Prop} (context : TriggerContext)

theorem addsOnly_isCancelled (h : ∀ answer, kind (.asked answer)) :
    AddsOnly kind (isCancelled context) := by
  intro session
  rw [isCancelled_apply]
  exact ⟨_, rfl, by simpa using h _⟩

theorem addsOnly_log
    {workflowId : Uuid} {status : Status} {complete : LogEntry → LogEntry}
    (h : ∀ (entry : LogEntry) (record : Record),
      entry.Tells workflowId none none record status →
        entry.errorMessage = none → kind (.logged (complete entry))) :
    AddsOnly kind (log workflowId status complete) := by
  intro session
  rw [log_apply]
  refine ⟨_, rfl, ?_⟩
  intro moment hmem
  rw [List.mem_singleton.mp hmem]
  exact h _ session.record (LogEntry.tells_ofWorkflow _ _) rfl

theorem addsOnly_runActions
    (workflowId ruleId : Uuid) (tally : RuleTally) (actions : List Action) :
    AddsOnly Moment.OfRule
      (runActions workflowId ruleId context tally actions) := by
  induction actions generalizing tally with
  | nil => exact .pure _
  | cons action rest ih =>
      apply AddsOnly.bind (addsOnly_isCancelled context fun _ => trivial)
      intro cancelled
      cases cancelled with
      | true =>
          rw [if_pos rfl]
          exact .pure none
      | false =>
          rw [if_neg Bool.false_ne_true]
          refine .bind (.execute (fun _ => trivial) action _) fun result => ?_
          refine .bind (addsOnly_log fun entry record htells _ => ?_)
            fun _ => ih _
          have hentry :=
            (htells.forAction ruleId action.id).withResult result
          simp [Moment.OfRule, LogEntry.level, hentry.action]

theorem addsOnly_runRule (workflowId : Uuid) (rule : Rule) :
    AddsOnly Moment.OfRule (runRule workflowId context rule) := by
  apply AddsOnly.bind (.silent fun _ => rfl)
  intro _
  refine .bind (addsOnly_runActions context workflowId rule.id _ _)
    fun tally? => ?_
  cases tally? with
  | none => exact .pure none
  | some done =>
      refine .bind (addsOnly_log fun entry record htells _ => ?_)
        fun _ => .pure _
      have hentry := htells.ruleEntry rule.id done
      simp [Moment.OfRule, LogEntry.level, hentry.action, hentry.rule]

theorem addsOnly_runRules
    (workflowId : Uuid) (prior : Option Record) (tally : RulesTally)
    (rules : List Rule) :
    AddsOnly Moment.OfWorkflow
      (runRules workflowId prior context tally rules) := by
  induction rules generalizing tally with
  | nil => exact .pure _
  | cons rule rest ih =>
      apply AddsOnly.bind (addsOnly_isCancelled context fun _ => trivial)
      intro cancelled
      cases cancelled with
      | true =>
          rw [if_pos rfl]
          exact .pure none
      | false =>
          rw [if_neg Bool.false_ne_true]
          apply AddsOnly.bind (.silent fun _ => rfl)
          intro record
          apply AddsOnly.bind (.remember trivial)
          intro _
          split
          · refine .bind ((addsOnly_runRule context workflowId rule).mono
              fun _ => Moment.OfRule.ofWorkflow) fun done? => ?_
            cases done? with
            | none => exact .pure none
            | some done => exact ih _
          · exact ih _

theorem not_tellsBreak_of_details
    {entry : LogEntry} (h : entry.errorMessage = none) (details : String) :
    ¬ (entry.withDetails details).TellsBreak := by
  intro hbreak
  have hmessage := hbreak.2
  rw [LogEntry.withDetails, h] at hmessage
  simp at hmessage

theorem not_tellsBreak_of_failures (entry : LogEntry) (count : Nat) :
    ¬ (entry.withError
      (Number.natText count ++ " rule(s) had failures")).TellsBreak := by
  intro hbreak
  have hmessage := Option.some.inj hbreak.2
  -- the texts differ in their last letter, whatever the count
  have hlast :
      (Number.natText count ++ " rule(s) had failures").toList.getLast? =
        some 's' := by
    rw [String.toList_append, List.getLast?_append]
    rfl
  rw [hmessage] at hlast
  exact absurd hlast (by decide)

theorem addsOnly_finish (workflow : Workflow) (tally : RulesTally) :
    AddsOnly Moment.OfWorkflow (finish workflow context tally) := by
  unfold finish
  split
  · exact .bind (addsOnly_log fun _ _ _ hnone =>
      not_tellsBreak_of_details hnone _) fun _ => .pure _
  · refine .bind (.silent fun _ => rfl) fun _ => ?_
    dsimp only
    split
    · exact .bind (addsOnly_log fun _ _ _ hnone =>
        not_tellsBreak_of_details hnone _) fun _ => .pure _
    · exact .bind (addsOnly_log fun _ _ _ _ =>
        not_tellsBreak_of_failures _ _) fun _ => .pure _

theorem addsOnly_weighRules (workflow : Workflow) (prior : Option Record) :
    AddsOnly Moment.OfWorkflow (weighRules workflow prior context) := by
  refine .bind (addsOnly_runRules context workflow.id prior _ _)
    fun tally? => ?_
  cases tally? with
  | none => exact .pure _
  | some tally => exact addsOnly_finish context workflow tally

theorem addsOnly_passOver (workflow : Workflow) :
    AddsOnly Moment.OfWorkflow (passOver workflow) := by
  refine .bind (.silent fun _ => rfl) fun _ => ?_
  exact .bind (addsOnly_log fun _ _ _ hnone =>
    not_tellsBreak_of_details hnone _) fun _ => .pure _

/-! ## How an evaluation ends -/

variable {context} {session later : Session}

/-- The tally counts the rules that were found to match. -/
theorem runRules_matched
    {workflowId : Uuid} {prior : Option Record} {tally done : RulesTally}
    {rules : List Rule}
    (h : runRules workflowId prior context tally rules session =
      (.value (some done), later)) :
    ∃ moments,
      later.trace = session.trace ++ moments ∧
        done.matched =
          tally.matched + (rulesOf moments).countP Prod.snd := by
  induction rules generalizing tally session with
  | nil =>
      obtain ⟨rfl, rfl⟩ := by simpa [runRules] using h
      exact ⟨[], by simp, rfl⟩
  | cons rule rest ih =>
      rw [runRules, Run.bind_of_value (isCancelled_apply context session)]
        at h
      cases hanswer : session.host.givesUp context with
      | true =>
          rw [hanswer, if_pos rfl] at h
          simp at h
      | false =>
          rw [hanswer, if_neg Bool.false_ne_true, Run.gets_bind,
            Session.remember, Run.modify_bind] at h
          split at h
          · rename_i hholds
            obtain ⟨tally?, ruled, hruled, h⟩ := Run.bind_eq_value_iff.mp h
            cases tally? with
            | none => simp at h
            | some ruleTally =>
                obtain ⟨acted, hacted, hkinds⟩ :=
                  addsOnly_runRule context workflowId rule _
                obtain ⟨moments, htrace, hmatched⟩ := ih h
                rw [hruled] at hacted
                refine ⟨
                  .asked false :: .weighed rule true :: (acted ++ moments),
                  ?_, ?_⟩
                · rw [htrace, hacted, hholds]
                  simp
                · have hnone := rulesOf_eq_nil hkinds
                  rw [hmatched, rulesOf_asked, rulesOf_weighed,
                    List.countP_cons_of_pos rfl, rulesOf_append, hnone,
                    List.nil_append]
                  dsimp only
                  omega
          · rename_i hholds
            obtain ⟨moments, htrace, hmatched⟩ := ih h
            refine ⟨.asked false :: .weighed rule false :: moments, ?_, ?_⟩
            · rw [htrace, (Bool.not_eq_true _).mp hholds]
              simp
            · rw [hmatched, rulesOf_asked, rulesOf_weighed,
                List.countP_cons_of_neg Bool.false_ne_true]

theorem log_pure_value
    {α : Type} {workflowId : Uuid} {status : Status}
    {complete : LogEntry → LogEntry} {a b : α}
    (h : (log workflowId status complete >>= fun _ => pure a) session =
      (.value b, later)) :
    b = a ∧ ∃ entry, later.trace = session.trace ++ [.logged entry] := by
  obtain ⟨_, logged, hlogged, h⟩ := Run.bind_eq_value_iff.mp h
  obtain ⟨rfl, rfl⟩ := by simpa using h
  rw [log_apply] at hlogged
  obtain rfl := congrArg Prod.snd hlogged
  exact ⟨rfl, _, rfl⟩

theorem finish_value
    {workflow : Workflow} {tally : RulesTally} {run : WorkflowRun}
    (h : finish workflow context tally session = (.value run, later)) :
    (run = if tally.matched = 0 then .noMatch else .matched) ∧
      ∃ entry, later.trace = session.trace ++ [.logged entry] := by
  unfold finish at h
  split at h
  · rename_i hnone
    rw [if_pos hnone]
    exact log_pure_value h
  · rename_i hsome
    rw [if_neg hsome]
    rw [Session.count, Run.modify_bind] at h
    dsimp only at h
    split at h
    · obtain ⟨hrun, hentry⟩ := log_pure_value h
      exact ⟨hrun, hentry⟩
    · obtain ⟨hrun, hentry⟩ := log_pure_value h
      exact ⟨hrun, hentry⟩

/-- As long as it does not break off, the computation is an evaluation of the
workflow that ends as it tells. -/
def Evaluates (workflow : Workflow) (x : Run Session WorkflowRun) : Prop :=
  ∀ session, ∃ moments,
    (x session).2.trace = session.trace ++ moments ∧
      (∀ moment ∈ moments, moment.OfWorkflow) ∧
      ∀ run, (x session).1 = .value run →
        Evaluation.EndsBy ⟨workflow, moments⟩ (.value run)

theorem evaluates_weighRules
    (workflow : Workflow) (prior : Option Record) (context : TriggerContext) :
    Evaluates workflow (weighRules workflow prior context) := by
  intro session
  obtain ⟨moments, htrace, hkinds⟩ :=
    addsOnly_weighRules context workflow prior session
  refine ⟨moments, htrace, hkinds, fun run hrun => ?_⟩
  have hweigh : weighRules workflow prior context session =
      (.value run, _) := Prod.ext hrun rfl
  obtain ⟨tally?, weighed, hweighed, hfinish⟩ :=
    Run.bind_eq_value_iff.mp hweigh
  cases tally? with
  | none =>
      obtain ⟨rfl, -⟩ := by simpa using hfinish
      trivial
  | some tally =>
      obtain ⟨first, hfirst, hmatched⟩ := runRules_matched hweighed
      obtain ⟨hvalue, entry, hlast⟩ := finish_value hfinish
      have hmoments : moments = first ++ [.logged entry] := by
        rw [hlast, hfirst, List.append_assoc] at htrace
        exact (List.append_cancel_left htrace).symm
      have hcount :
          Evaluation.Matched ⟨workflow, moments⟩ ↔ 0 < tally.matched := by
        rw [Evaluation.matched_iff, hmatched, hmoments, rulesOf_append,
          rulesOf_logged]
        simp [rulesOf]
      split at hvalue
      · rename_i hnone
        rw [hvalue]
        exact .inl fun h => Nat.ne_of_gt (hcount.mp h) hnone
      · rename_i hsome
        rw [hvalue]
        exact ⟨hcount.mpr (Nat.pos_of_ne_zero hsome),
          Evaluation.not_brokeOff hkinds⟩

theorem evaluates_passOver (workflow : Workflow) :
    Evaluates workflow (passOver workflow) := by
  intro session
  obtain ⟨moments, htrace, hkinds⟩ := addsOnly_passOver workflow session
  refine ⟨moments, htrace, hkinds, fun run hrun => ?_⟩
  rcases hpass : passOver workflow session with ⟨ending, later⟩
  rw [hpass] at htrace hrun
  obtain rfl : ending = .value run := hrun
  rw [passOver, Session.count, Run.modify_bind] at hpass
  obtain ⟨rfl, entry, hlast⟩ := log_pure_value hpass
  rw [hlast] at htrace
  obtain rfl : [.logged entry] = moments := List.append_cancel_left htrace
  rintro ⟨rule, hmem⟩
  simp at hmem

theorem runGuarded_evaluates
    (workflow : Workflow) (trigger : TriggerType) (prior : Option Record)
    (context : TriggerContext) (session : Session) :
    ∃ moments,
      (runGuarded workflow trigger prior context session).2.trace =
          session.trace ++ .began workflow :: moments ∧
        Evaluation.Alone ⟨workflow, moments⟩ ∧
        Evaluation.EndsBy ⟨workflow, moments⟩
          (runGuarded workflow trigger prior context session).1 := by
  have hevaluates :
      Evaluates workflow
        (if isTriggeredBy workflow trigger session.record prior then
          weighRules workflow prior context
        else passOver workflow) := by
    split
    · exact evaluates_weighRules workflow prior context
    · exact evaluates_passOver workflow
  obtain ⟨moments, htrace, hkinds, hends⟩ :=
    hevaluates (takenUp workflow session)
  rw [← runWorkflow_apply] at htrace hends
  have hbegan :
      (runWorkflow workflow trigger prior context session).2.trace =
        session.trace ++ .began workflow :: moments := by
    rw [htrace]
    simp [takenUp]
  have halone : ∀ other, .began other ∉ moments :=
    fun other hmem => hkinds _ hmem
  unfold runGuarded
  rcases hran : runWorkflow workflow trigger prior context session with
    ⟨run | _, ran⟩
  · rw [hran] at hbegan hends
    rw [Run.bind_of_value (Run.guarded_of_value hran)]
    exact ⟨moments, hbegan, halone, hends run rfl⟩
  · rw [hran] at hbegan
    rw [Run.bind_of_value (Run.guarded_of_panic hran)]
    dsimp only
    let told : LogEntry :=
      nextEntry workflow.id .failed
        (·.withError "workflow evaluation panicked") ran
    have hbrokeOff :
        Evaluation.BrokeOff ⟨workflow, moments ++ [.logged told]⟩ :=
      ⟨told, by simp, rfl, rfl⟩
    refine ⟨moments ++ [.logged told], ?_, ?_, ?_⟩
    · rw [Run.bind_pure_state, log_apply]
      change ran.trace ++ [.logged told] = _
      rw [hbegan, List.append_assoc, List.cons_append]
    · intro other hmem
      exact halone other (by simpa using hmem)
    -- the entry is in the trace even when its writing breaks off as well
    · rcases hlog :
          log workflow.id .failed
            (·.withError "workflow evaluation panicked") ran with
        ⟨_ | _, later⟩
      · rw [Run.bind_of_value hlog]
        exact .inr hbrokeOff
      · rw [Run.bind_of_panic hlog]
        exact hbrokeOff

/-! ## How far a run goes -/

theorem runWorkflows_cons
    {context : TriggerContext} {session : Session}
    (hgoesOn : session.host.givesUp context = false) (trigger : TriggerType)
    (prior : Option Record) (workflow : Workflow) (rest : List Workflow) :
    runWorkflows trigger prior context (workflow :: rest) session =
      (runGuarded workflow trigger prior context >>=
        goOn workflow (runWorkflows trigger prior context rest))
        { session with
          host := session.host.withPatience
            (session.host.patienceLeft context)
          trace := session.trace ++ [.asked false] } := by
  rw [runWorkflows, Run.bind_of_value (isCancelled_apply context session),
    hgoesOn, if_neg Bool.false_ne_true]

theorem mem_trace_of_reaches
    {α : Type} {x : Run Session α} (hx : Run.Reaches Step x)
    {session : Session} {moment : Moment} (h : moment ∈ session.trace) :
    moment ∈ (x session).2.trace := by
  obtain ⟨moments, _, hadds⟩ := Session.adds_of_steps (hx session)
  rw [hadds.trace]
  exact List.mem_append_left _ h

/-- An evaluation in which nobody is told to give up does not give up. -/
theorem runGuarded_stays
    (workflow : Workflow) (trigger : TriggerType) (prior : Option Record)
    (context : TriggerContext) {session : Session}
    (hunasked : session.Unasked)
    (hnever :
      .asked true ∉
        (runGuarded workflow trigger prior context session).2.trace) :
    (runGuarded workflow trigger prior context session).2.Unasked ∧
      (runGuarded workflow trigger prior context session).1 ≠
        .value .cancelled := by
  rcases tracks_runGuarded workflow trigger prior context session none
      hunasked with
    ⟨_, -, hlater, hstays⟩ | ⟨_, -, -, shared, _, _, htrace, -⟩
  · exact ⟨hlater, fun hcancelled => hstays _ hcancelled rfl⟩
  · refine absurd ?_ hnever
    rw [htrace]
    simp

/-- Unless it gave up, a workflow stops the rest or leaves it as it is, by what
its evaluation tells. -/
theorem goOn_cases
    {evaluation : Evaluation} {run : WorkflowRun} (hrun : run ≠ .cancelled)
    (hends : evaluation.EndsBy (.value run)) :
    (evaluation.Stops ∧
        ∀ rest, goOn evaluation.workflow rest run = pure ()) ∨
      (¬ evaluation.Stops ∧
        ∀ rest, goOn evaluation.workflow rest run = rest) := by
  cases run with
  | cancelled => exact absurd rfl hrun
  | matched =>
      cases hstop : evaluation.workflow.stopOnMatch with
      | true =>
          refine .inl ⟨⟨hstop, hends⟩, fun rest => ?_⟩
          rw [goOn, hstop, if_pos rfl]
      | false =>
          refine .inr ⟨fun hstops => ?_, fun rest => ?_⟩
          · exact Bool.false_ne_true (hstop.symm.trans hstops.1)
          · rw [goOn, hstop, if_neg Bool.false_ne_true]
  | skipped =>
      exact .inr ⟨fun hstops => hends hstops.2.1, fun _ => rfl⟩
  | noMatch =>
      refine .inr ⟨fun hstops => ?_, fun _ => rfl⟩
      exact hends.elim (· hstops.2.1) hstops.2.2

/-- A run that is never told to give up goes through its workflows, and does not
see those that come after the last one it takes up. -/
theorem runWorkflows_goesThrough
    (trigger : TriggerType) (prior : Option Record) (context : TriggerContext)
    (workflows : List Workflow) {session : Session}
    (hunasked : session.Unasked)
    (hnever :
      .asked true ∉
        (runWorkflows trigger prior context workflows session).2.trace) :
    ∃ evaluations,
      (runWorkflows trigger prior context workflows session).2.trace =
          session.trace ++ Evaluation.told evaluations ∧
        (∀ evaluation ∈ evaluations, evaluation.Alone) ∧
        GoesThrough
          ((runWorkflows trigger prior context workflows session).1 = .panic)
          workflows evaluations ∧
        runWorkflows trigger prior context
            (evaluations.map Evaluation.workflow) session =
          runWorkflows trigger prior context workflows session := by
  -- the session changes from one workflow to the next, but stays unasked
  induction workflows generalizing session with
  | nil =>
      exact ⟨[], by simp [Evaluation.told, runWorkflows], by simp, .done, rfl⟩
  | cons workflow rest ih =>
      cases hgivesUp : session.host.givesUp context with
      | true =>
          refine absurd ?_ hnever
          rw [runWorkflows,
            Run.bind_of_value (isCancelled_apply context session), hgivesUp,
            if_pos rfl]
          change Moment.asked true ∈ session.trace ++ [.asked true]
          simp
      | false =>
          have hcons := runWorkflows_cons hgivesUp trigger prior workflow
          let asked : Session :=
            { session with
              host := session.host.withPatience
                (session.host.patienceLeft context)
              trace := session.trace ++ [.asked false] }
          have hasked : asked.Unasked :=
            ⟨by simpa [asked] using hunasked.1, hunasked.2⟩
          obtain ⟨moments, htrace, halone, hends⟩ :=
            runGuarded_evaluates workflow trigger prior context asked
          rw [hcons] at hnever ⊢
          rcases hran : runGuarded workflow trigger prior context asked with
            ⟨run | _, ran⟩
          · rw [hran] at htrace hends
            rw [Run.bind_of_value hran] at hnever ⊢
            have hstays :=
              runGuarded_stays workflow trigger prior context hasked
                fun hmem => hnever (mem_trace_of_reaches
                  (reaches_goOn workflow
                    (reaches_runWorkflows trigger prior context rest) run)
                  (by rwa [hran] at hmem))
            rw [hran] at hstays
            obtain ⟨hranUnasked, hran_ne⟩ := hstays
            rcases goOn_cases (fun h => hran_ne (congrArg _ h)) hends with
              ⟨hstops, hgoOn⟩ | ⟨hgoesOn, hgoOn⟩
            · rw [hgoOn]
              refine ⟨[⟨workflow, moments⟩], ?_, by simpa using halone,
                .stopped rest hstops, ?_⟩
              · change ran.trace = _
                rw [htrace]
                simp [asked, Evaluation.told]
              · rw [List.map_singleton, hcons, Run.bind_of_value hran, hgoOn]
            · rw [hgoOn] at hnever ⊢
              obtain ⟨more, hmore, hothers, hthrough, hsame⟩ :=
                ih hranUnasked hnever
              refine ⟨⟨workflow, moments⟩ :: more, ?_, ?_,
                .next hgoesOn hthrough, ?_⟩
              · rw [hmore, htrace]
                simp [asked, Evaluation.told]
              · exact List.forall_mem_cons.mpr ⟨halone, hothers⟩
              · rw [List.map_cons, hcons, Run.bind_of_value hran, hgoOn, hsame]
          · rw [hran] at htrace hends
            rw [Run.bind_of_panic hran]
            refine ⟨[⟨workflow, moments⟩], ?_, by simpa using halone,
              .cut rest rfl hends, ?_⟩
            · rw [htrace]
              simp [asked, Evaluation.told]
            · rw [List.map_singleton, hcons]
              exact Run.bind_of_panic hran _

end Engine

end RecordRules
