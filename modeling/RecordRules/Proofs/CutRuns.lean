import RecordRules.Proofs.SessionSteps

/-!
# Runs that are cut short

A run whose token may be cancelled is laid beside the run on the same session
whose token nobody cancels.  Until the first question that is answered with yes
both do the same, except for the patience of the token, which nothing else sees.
From that question on the cut run only gives up, while the full run goes on.
-/

namespace RecordRules

open Host (Acts Effect Leads)

/-- The same circumstances, with nobody to cancel the run. -/
def TriggerContext.uncancelled (context : TriggerContext) : TriggerContext :=
  { context with cancellable := false }

namespace Session

def withPatience (session : Session) (patience : Option Nat) : Session :=
  { session with host := session.host.withPatience patience }

/-- No question for cancellation has been answered with yes. -/
def Unasked (session : Session) : Prop :=
  .asked true ∉ session.trace ∧ session.outcome.cancelled = false

/-- The cut run gave up at its last question; the full run did the same up to
that question, and went on from there. -/
def Overtaken (cut full : Session) : Prop :=
  ∃ shared rest effects,
    cut.trace = shared ++ [.asked true] ∧ .asked true ∉ shared ∧
      full.trace = shared ++ rest ∧ Leads effects cut.host full.host

theorem Overtaken.steps
    {cut full later : Session} (h : Overtaken cut full)
    (hsteps : Relation.ReflTransGen Step full later) :
    Overtaken cut later := by
  obtain ⟨shared, rest, effects, hcut, hshared, hfull, hleads⟩ := h
  obtain ⟨moments, more, hadds⟩ := adds_of_steps hsteps
  refine ⟨shared, rest ++ moments, effects ++ more, hcut, hshared, ?_,
    hleads.trans hadds.host⟩
  rw [hadds.trace, hfull, List.append_assoc]

theorem Overtaken.of_eq
    {cut full later : Session} (h : Overtaken cut full)
    (htrace : later.trace = cut.trace) (hhost : later.host = cut.host) :
    Overtaken later full := by
  unfold Overtaken
  rw [htrace, hhost]
  exact h

/-! ## Computations that do not see the patience -/

variable {α β : Type}

/-- Whatever the patience of the token, the computation does the same, and it
asks for no cancellation. -/
def Blind (x : Run Session α) : Prop :=
  ∀ session patience,
    (∃ left,
      x (session.withPatience patience) =
        ((x session).1, (x session).2.withPatience left)) ∧
      (session.Unasked → (x session).2.Unasked)

theorem Blind.pure (a : α) : Blind (pure a : Run Session α) :=
  fun _ patience => ⟨⟨patience, rfl⟩, id⟩

theorem Blind.gets (view : Session → α)
    (hview : ∀ session patience,
      view (session.withPatience patience) = view session) :
    Blind (Run.gets view) := by
  intro session patience
  refine ⟨⟨patience, ?_⟩, id⟩
  simp only [Run.gets, hview]

theorem Blind.modify (change : Session → Session)
    (hchange : ∀ session patience,
      change (session.withPatience patience) =
        (change session).withPatience patience)
    (hunasked : ∀ session, session.Unasked → (change session).Unasked) :
    Blind (Run.modify change) := by
  intro session patience
  refine ⟨⟨patience, ?_⟩, hunasked session⟩
  simp only [Run.modify, hchange]

theorem Blind.bind
    {x : Run Session α} {next : α → Run Session β}
    (hx : Blind x) (hnext : ∀ a, Blind (next a)) :
    Blind (x >>= next) := by
  intro session patience
  obtain ⟨⟨left, hleft⟩, hunasked⟩ := hx session patience
  rcases hs : x session with ⟨a | _, middle⟩
  · rw [hs] at hleft hunasked
    obtain ⟨⟨last, hlast⟩, hmiddle⟩ := hnext a middle left
    rw [Run.bind_of_value hs, Run.bind_of_value hleft]
    exact ⟨⟨last, hlast⟩, fun h => hmiddle (hunasked h)⟩
  · rw [hs] at hleft hunasked
    rw [Run.bind_of_panic hs, Run.bind_of_panic hleft]
    exact ⟨⟨left, rfl⟩, hunasked⟩

theorem Blind.onHost
    {scope : Host.Scope} {work : Run Host α} (h : Acts scope work) :
    Blind (onHost work) := by
  intro session patience
  obtain ⟨left, hleft⟩ := h.blind session.host patience
  refine ⟨⟨left, ?_⟩, id⟩
  change (_, _) = _
  rw [Session.onHost, Run.within_apply]
  exact congrArg (fun ended => (ended.1, { session with host := ended.2 }))
    hleft

theorem Blind.remember {moment : Moment} (h : moment ≠ .asked true) :
    Blind (remember moment) := by
  refine .modify _ (fun _ _ => rfl) fun session hunasked => ⟨?_, hunasked.2⟩
  intro hmem
  rcases List.mem_append.mp hmem with hmem | hmem
  · exact hunasked.1 hmem
  · exact h (List.mem_singleton.mp hmem).symm

theorem Blind.count {change : TriggerOutcome → TriggerOutcome}
    (h : ∀ outcome, (change outcome).cancelled = outcome.cancelled) :
    Blind (count change) :=
  .modify _ (fun _ _ => rfl) fun _ hunasked =>
    ⟨hunasked.1, (h _).trans hunasked.2⟩

theorem blind_execute (action : Action) (context : ExecutionContext) :
    Blind (execute action context) := by
  apply Blind.bind (.gets _ fun _ _ => rfl)
  intro before
  refine .bind (.onHost (Execution.acts_execute action before context))
    fun done => ?_
  apply Blind.bind (.remember (by simp))
  intro _
  refine .bind (.modify _ (fun _ _ => rfl) fun session hunasked => ?_)
    fun _ => .pure _
  refine ⟨hunasked.1, ?_⟩
  have hcancelled :
      (session.outcome.countAction done.1.status).cancelled =
        session.outcome.cancelled := by
    cases done.1.status <;> rfl
  rw [hcancelled]
  exact hunasked.2

theorem blind_log
    (workflowId : Uuid) (status : Status)
    (complete : LogEntry → LogEntry) :
    Blind (Engine.log workflowId status complete) := by
  apply Blind.bind (.gets _ fun _ _ => rfl)
  intro record
  apply Blind.bind (.onHost (acts_newEntry _ _ _ _))
  intro entry
  exact .bind (.remember (by simp)) fun _ => .onHost (acts_writeLog _)

/-! ## Two runs side by side -/

/-- The cut run does what the full run does on a token of any patience, or has
given up and been overtaken. -/
def Tracks
    (cut full : Run Session α) (gaveUp : α → Session → Prop) : Prop :=
  ∀ session patience, session.Unasked →
    (∃ left,
      full (session.withPatience patience) =
          ((cut session).1, (cut session).2.withPatience left) ∧
        (cut session).2.Unasked ∧
        ∀ a, (cut session).1 = .value a → ¬ gaveUp a (cut session).2) ∨
    (∃ a,
      (cut session).1 = .value a ∧ gaveUp a (cut session).2 ∧
        Overtaken (cut session).2
          (full (session.withPatience patience)).2)

variable {gaveUp : α → Session → Prop} {gaveUpLater : β → Session → Prop}

theorem Tracks.of_blind
    {x : Run Session α} (hx : Blind x)
    (hstay : Run.Yields (fun a => ∀ session, ¬ gaveUp a session) x) :
    Tracks x x gaveUp := by
  intro session patience hunasked
  obtain ⟨⟨left, hleft⟩, hlater⟩ := hx session patience
  exact .inl ⟨left, hleft, hlater hunasked,
    fun a ha => hstay session a _ (Prod.ext ha rfl) _⟩

theorem Tracks.pure {a : α}
    (hstay : ∀ session, session.Unasked → ¬ gaveUp a session) :
    Tracks (pure a) (pure a) gaveUp := by
  intro session patience hunasked
  refine .inl ⟨patience, rfl, hunasked, fun b hb => ?_⟩
  obtain rfl : a = b := by simpa using hb
  exact hstay session hunasked

/-- Two runs go on side by side after a part that does not see the
patience. -/
theorem Tracks.blind_bind
    {x : Run Session α} {cut full : α → Run Session β} (hx : Blind x)
    (hnext : ∀ a, Tracks (cut a) (full a) gaveUpLater) :
    Tracks (x >>= cut) (x >>= full) gaveUpLater := by
  intro session patience hunasked
  obtain ⟨⟨left, hleft⟩, hlater⟩ := hx session patience
  rcases hs : x session with ⟨a | _, middle⟩
  · rw [hs] at hleft hlater
    rw [Run.bind_of_value hs, Run.bind_of_value hleft]
    exact hnext a middle left (hlater hunasked)
  · rw [hs] at hleft hlater
    rw [Run.bind_of_panic hs, Run.bind_of_panic hleft]
    exact .inl ⟨left, rfl, hlater hunasked, by simp⟩

/-- Two runs go on side by side unless the cut run gave up; then the rest of it
gives up as well. -/
theorem Tracks.bind
    {cutFirst fullFirst : Run Session α} {cut full : α → Run Session β}
    (hfirst : Tracks cutFirst fullFirst gaveUp)
    (hstay : ∀ a session, ¬ gaveUp a session →
      Tracks (cut a) (full a) gaveUpLater)
    (hleave : ∀ a session, gaveUp a session →
      ∃ b later, cut a session = (.value b, later) ∧ gaveUpLater b later ∧
        later.trace = session.trace ∧ later.host = session.host)
    (hsteps : ∀ a, Run.Reaches Step (full a)) :
    Tracks (cutFirst >>= cut) (fullFirst >>= full) gaveUpLater := by
  intro session patience hunasked
  rcases hfirst session patience hunasked with
    ⟨left, hfull, hlater, hstays⟩ | ⟨a, hvalue, hgaveUp, hovertaken⟩
  · rcases hs : cutFirst session with ⟨a | _, middle⟩
    · rw [hs] at hfull hlater hstays
      rw [Run.bind_of_value hs, Run.bind_of_value hfull]
      exact hstay a middle (hstays a rfl) middle left hlater
    · rw [hs] at hfull hlater
      rw [Run.bind_of_panic hs, Run.bind_of_panic hfull]
      exact .inl ⟨left, rfl, hlater, by simp⟩
  · rcases hs : cutFirst session with ⟨ending, middle⟩
    rw [hs] at hvalue hgaveUp hovertaken
    obtain rfl : ending = .value a := hvalue
    obtain ⟨b, later, hcut, hlast, htrace, hhost⟩ := hleave a middle hgaveUp
    rw [Run.bind_of_value hs, hcut]
    refine .inr ⟨b, rfl, hlast, ?_⟩
    have hlaterOvertaken := hovertaken.of_eq htrace hhost
    rcases hfull : fullFirst (session.withPatience patience) with
      ⟨c | _, fullMiddle⟩
    · rw [hfull] at hlaterOvertaken
      rw [Run.bind_of_value hfull]
      exact hlaterOvertaken.steps (hsteps c fullMiddle)
    · rw [hfull] at hlaterOvertaken
      rw [Run.bind_of_panic hfull]
      exact hlaterOvertaken

theorem Tracks.guarded
    {cut full : Run Session α} (h : Tracks cut full gaveUp) :
    Tracks cut.guarded full.guarded
      (fun caught session => ∃ a, caught = some a ∧ gaveUp a session) := by
  intro session patience hunasked
  rcases h session patience hunasked with
    ⟨left, hfull, hlater, hstays⟩ | ⟨a, hvalue, hgaveUp, hovertaken⟩
  · refine .inl ⟨left, ?_⟩
    rcases hs : cut session with ⟨a | _, middle⟩
    · rw [hs] at hfull hlater hstays
      rw [Run.guarded_of_value hs, Run.guarded_of_value hfull]
      refine ⟨rfl, hlater, ?_⟩
      rintro caught hcaught ⟨b, rfl, hb⟩
      obtain rfl : a = b := by simpa using hcaught
      exact hstays a rfl hb
    · rw [hs] at hfull hlater
      rw [Run.guarded_of_panic hs, Run.guarded_of_panic hfull]
      refine ⟨rfl, hlater, ?_⟩
      rintro caught hcaught ⟨b, rfl, -⟩
      simp at hcaught
  · refine .inr ⟨some a, ?_⟩
    rcases hs : cut session with ⟨ending, middle⟩
    rw [hs] at hvalue hgaveUp hovertaken
    obtain rfl : ending = .value a := hvalue
    rw [Run.guarded_of_value hs, Run.guarded_state]
    exact ⟨rfl, ⟨a, rfl, hgaveUp⟩, hovertaken⟩

end Session

/-! ## The parts of a run side by side -/

namespace Engine

open Session (Blind Tracks Step blind_execute blind_log)

/-- Two runs ask for cancellation.  Only the cut one may be told to leave. -/
theorem tracks_unlessCancelled
    {α : Type} {gaveUp : α → Session → Prop} (context : TriggerContext)
    {leave cut full : Run Session α}
    (hleave : ∀ session, ∃ a later,
      leave session = (.value a, later) ∧ gaveUp a later ∧
        later.trace = session.trace ∧ later.host = session.host)
    (htracks : Tracks cut full gaveUp) (hsteps : Run.Reaches Step full) :
    Tracks
      (isCancelled context >>= fun answer => if answer then leave else cut)
      (isCancelled context.uncancelled >>= fun answer =>
        if answer then leave else full) gaveUp := by
  intro session patience hunasked
  rw [Run.bind_of_value (isCancelled_apply context session),
    Run.bind_of_value (isCancelled_apply context.uncancelled _)]
  have hfull :
      (session.withPatience patience).host.givesUp context.uncancelled =
        false := rfl
  rw [hfull, if_neg Bool.false_ne_true]
  cases session.host.givesUp context with
  | false =>
      rw [if_neg Bool.false_ne_true]
      let asked : Session :=
        { session with
          host := session.host.withPatience
            (session.host.patienceLeft context)
          trace := session.trace ++ [.asked false] }
      have hasked : asked.Unasked :=
        ⟨by simpa [asked] using hunasked.1, hunasked.2⟩
      exact htracks asked patience hasked
  | true =>
      rw [if_pos rfl]
      obtain ⟨a, later, hvalue, hgaveUp, htrace, hhost⟩ := hleave _
      rw [hvalue]
      refine .inr ⟨a, rfl, hgaveUp, .steps ?_ (hsteps _)⟩
      refine .of_eq ?_ htrace hhost
      exact ⟨session.trace, [.asked false], [], rfl, hunasked.1, rfl,
        .of_counters _ _ _ _⟩

theorem tracks_runActions
    (workflowId ruleId : Uuid) (context : TriggerContext) (tally : RuleTally)
    (actions : List Action) :
    Tracks (runActions workflowId ruleId context tally actions)
      (runActions workflowId ruleId context.uncancelled tally actions)
      (fun tally? _ => tally? = none) := by
  induction actions generalizing tally with
  | nil => exact .pure (by simp)
  | cons action rest ih =>
      refine tracks_unlessCancelled context
        (fun session => ⟨none, session, rfl, rfl, rfl, rfl⟩) ?_ ?_
      · refine .blind_bind (blind_execute action _) fun result => ?_
        exact .blind_bind (blind_log workflowId _ _) fun _ => ih _
      · refine .bind (reaches_execute action _) fun result => ?_
        exact .bind (reaches_log workflowId _ _) fun _ =>
          reaches_runActions workflowId ruleId _ _ rest

theorem tracks_runRule
    (workflowId : Uuid) (context : TriggerContext) (rule : Rule) :
    Tracks (runRule workflowId context rule)
      (runRule workflowId context.uncancelled rule)
      (fun tally? _ => tally? = none) := by
  refine .blind_bind (.count fun _ => rfl) fun _ => ?_
  refine .bind (tracks_runActions workflowId rule.id context _ _) ?_ ?_ ?_
  · rintro (_ | done) session hstay
    · exact absurd rfl hstay
    · exact .blind_bind (blind_log workflowId _ _) fun _ => .pure (by simp)
  · rintro _ session rfl
    exact ⟨none, session, rfl, rfl, rfl, rfl⟩
  · rintro (_ | done)
    · exact .pure _
    · exact .bind (reaches_log workflowId _ _) fun _ => .pure _

theorem tracks_runRules
    (workflowId : Uuid) (prior : Option Record) (context : TriggerContext)
    (tally : RulesTally) (rules : List Rule) :
    Tracks (runRules workflowId prior context tally rules)
      (runRules workflowId prior context.uncancelled tally rules)
      (fun tally? _ => tally? = none) := by
  induction rules generalizing tally with
  | nil => exact .pure (by simp)
  | cons rule rest ih =>
      refine tracks_unlessCancelled context
        (fun session => ⟨none, session, rfl, rfl, rfl, rfl⟩) ?_ ?_
      · refine .blind_bind (.gets _ fun _ _ => rfl) fun record => ?_
        apply Tracks.blind_bind (.remember (by simp))
        intro _
        split
        · refine .bind (tracks_runRule workflowId context rule) ?_ ?_ ?_
          · rintro (_ | done) session hstay
            · exact absurd rfl hstay
            · exact ih _
          · rintro _ session rfl
            exact ⟨none, session, rfl, rfl, rfl, rfl⟩
          · rintro (_ | done)
            · exact .pure _
            · exact reaches_runRules workflowId prior _ _ rest
        · exact ih tally
      · refine .bind (.gets _) fun record => ?_
        refine .bind (reaches_remember trivial) fun _ => ?_
        split
        · refine .bind (reaches_runRule workflowId _ rule) ?_
          rintro (_ | done)
          · exact .pure _
          · exact reaches_runRules workflowId prior _ _ rest
        · exact reaches_runRules workflowId prior _ _ rest

theorem blind_finish
    (workflow : Workflow) (context : TriggerContext) (tally : RulesTally) :
    Blind (finish workflow context tally) := by
  unfold finish
  split
  · exact .bind (blind_log workflow.id _ _) fun _ => .pure _
  · refine .bind (.count fun _ => rfl) fun _ => ?_
    dsimp only
    split
    · exact .bind (blind_log workflow.id _ _) fun _ => .pure _
    · exact .bind (blind_log workflow.id _ _) fun _ => .pure _

theorem yields_finish
    (workflow : Workflow) (context : TriggerContext) (tally : RulesTally) :
    Run.Yields (· ≠ .cancelled) (finish workflow context tally) := by
  unfold finish
  split
  · exact .bind fun _ => .pure (by simp)
  · refine .bind fun _ => ?_
    dsimp only
    split <;> exact .bind fun _ => .pure (by simp)

theorem tracks_weighRules
    (workflow : Workflow) (prior : Option Record) (context : TriggerContext) :
    Tracks (weighRules workflow prior context)
      (weighRules workflow prior context.uncancelled)
      (fun run _ => run = .cancelled) := by
  refine .bind (tracks_runRules workflow.id prior context _ _) ?_ ?_ ?_
  · rintro (_ | tally) session hstay
    · exact absurd rfl hstay
    · exact .of_blind (blind_finish workflow context tally)
        fun s a t h _ => yields_finish workflow context tally s a t h
  · rintro _ session rfl
    exact ⟨.cancelled, session, rfl, rfl, rfl, rfl⟩
  · rintro (_ | tally)
    · exact .pure _
    · exact reaches_finish workflow context.uncancelled tally

theorem tracks_passOver (workflow : Workflow) :
    Tracks (passOver workflow) (passOver workflow)
      (fun run _ => run = .cancelled) :=
  .blind_bind (.count fun _ => rfl) fun _ =>
    .blind_bind (blind_log workflow.id _ _) fun _ => .pure (by simp)

theorem tracks_runWorkflow
    (workflow : Workflow) (trigger : TriggerType) (prior : Option Record)
    (context : TriggerContext) :
    Tracks (runWorkflow workflow trigger prior context)
      (runWorkflow workflow trigger prior context.uncancelled)
      (fun run _ => run = .cancelled) := by
  apply Tracks.blind_bind (.remember (by simp))
  intro _
  refine .blind_bind (.count fun _ => rfl) fun _ => ?_
  apply Tracks.blind_bind (.gets _ fun _ _ => rfl)
  intro record
  split
  · exact tracks_weighRules workflow prior context
  · exact tracks_passOver workflow

theorem tracks_runGuarded
    (workflow : Workflow) (trigger : TriggerType) (prior : Option Record)
    (context : TriggerContext) :
    Tracks (runGuarded workflow trigger prior context)
      (runGuarded workflow trigger prior context.uncancelled)
      (fun run _ => run = .cancelled) := by
  refine .bind (tracks_runWorkflow workflow trigger prior context).guarded
    ?_ ?_ ?_
  · rintro (_ | run) session hstay
    · exact .blind_bind (blind_log workflow.id _ _) fun _ => .pure (by simp)
    · exact .pure fun _ _ hcancelled => hstay ⟨run, rfl, hcancelled⟩
  · rintro _ session ⟨_, rfl, rfl⟩
    exact ⟨.cancelled, session, rfl, rfl, rfl, rfl⟩
  · rintro (_ | run)
    · exact .bind (reaches_log workflow.id _ _) fun _ => .pure _
    · exact .pure _

theorem markCancelled_leaves (session : Session) :
    ∃ a later,
      markCancelled session = (.value a, later) ∧
        later.outcome.cancelled = true ∧
        later.trace = session.trace ∧ later.host = session.host :=
  ⟨(), _, rfl, rfl, rfl, rfl⟩

theorem tracks_goOn
    (workflow : Workflow) {cut full : Run Session Unit}
    (h : Tracks cut full fun _ session => session.outcome.cancelled = true)
    {run : WorkflowRun} (hrun : run ≠ .cancelled) :
    Tracks (goOn workflow cut run) (goOn workflow full run)
      (fun _ session => session.outcome.cancelled = true) := by
  cases run with
  | cancelled => exact absurd rfl hrun
  | matched =>
      rw [goOn, goOn]
      split
      · exact .pure fun session hunasked => by simp [hunasked.2]
      · exact h
  | skipped => exact h
  | noMatch => exact h

/-- The cut run marks itself as cancelled when it gives up, and only then. -/
theorem tracks_runWorkflows
    (trigger : TriggerType) (prior : Option Record) (context : TriggerContext)
    (workflows : List Workflow) :
    Tracks (runWorkflows trigger prior context workflows)
      (runWorkflows trigger prior context.uncancelled workflows)
      (fun _ session => session.outcome.cancelled = true) := by
  induction workflows with
  | nil => exact .pure fun session hunasked => by simp [hunasked.2]
  | cons workflow rest ih =>
      have hrest := reaches_goOn workflow
        (reaches_runWorkflows trigger prior context.uncancelled rest)
      refine tracks_unlessCancelled context markCancelled_leaves ?_ ?_
      · refine .bind (tracks_runGuarded workflow trigger prior context)
          (fun run _ hstay => tracks_goOn workflow ih hstay) ?_ hrest
        rintro _ session rfl
        exact markCancelled_leaves session
      · exact .bind (reaches_runGuarded workflow trigger prior _) hrest

theorem blind_persist : Blind persist := by
  apply Blind.bind (.gets _ fun _ _ => rfl)
  intro record
  apply Blind.bind (.onHost (acts_saveWrites record))
  intro answer
  cases answer with
  | none => exact .pure ()
  | some answer =>
      apply Blind.bind (.remember (by simp))
      intro _
      exact .modify _ (fun _ _ => rfl) fun _ hunasked => hunasked

/-! ## Whole runs side by side -/

/-- The cut run did what the full run did, or gave up after its first question,
was overtaken, and saved what was written by then. -/
def Compared (started : Session) (cut full : Ending Unit × Session) : Prop :=
  (cut.2.Unasked ∧ ∃ left, full = (cut.1, cut.2.withPatience left)) ∨
    ∃ middle later,
      Relation.ReflTransGen Step started middle ∧
        middle.outcome.cancelled = true ∧ middle.Overtaken later ∧
        cut = persist middle ∧
        (full = persist later ∨ full = (.panic, later))

theorem runApplicable_compared
    (trigger : TriggerType) (prior : Option Record) (context : TriggerContext)
    {session : Session} (hunasked : session.Unasked)
    (patience : Option Nat) :
    Compared session (runApplicable trigger prior context session)
      (runApplicable trigger prior context.uncancelled
        (session.withPatience patience)) := by
  have hacts :
      Acts .loading
        (applicable session.record.recordType trigger).run :=
    acts_applicable _ _
  obtain ⟨left, hblind⟩ := hacts.blind session.host patience
  have hleads :=
    applicable_leads session.record.recordType trigger session.host
  have hload :
      (applicable (session.withPatience patience).record.recordType
          trigger).run (session.withPatience patience).host =
        (((applicable session.record.recordType trigger).run session.host).1,
          ((applicable session.record.recordType trigger).run
            session.host).2.withPatience left) := hblind
  rw [runApplicable_apply, runApplicable_apply, hload]
  rcases happlicable :
      (applicable session.record.recordType trigger).run session.host with
    ⟨(error | workflows) | _, host⟩
  · exact .inl ⟨hunasked, left, rfl⟩
  · rw [happlicable] at hleads
    let loaded : Session := { session with host }
    have hloaded : Relation.ReflTransGen Step session loaded :=
      .single (.brokeOff session host [] (by simp) hleads)
    have hsteps := hloaded.trans
      (reaches_runWorkflows trigger prior context workflows loaded)
    have htracks :=
      tracks_runWorkflows trigger prior context workflows loaded left hunasked
    change Compared session
      ((runWorkflows trigger prior context workflows >>= fun _ => persist)
        loaded)
      ((runWorkflows trigger prior context.uncancelled workflows >>=
        fun _ => persist) (loaded.withPatience left))
    rcases hcut : runWorkflows trigger prior context workflows loaded with
      ⟨ending, middle⟩
    rw [hcut] at hsteps htracks
    rcases htracks with ⟨last, hfull, hmiddle, -⟩ | ⟨_, hvalue, hgaveUp, hover⟩
    · cases ending with
      | value _ =>
          rw [Run.bind_of_value hcut, Run.bind_of_value hfull]
          obtain ⟨⟨saved, hsaved⟩, hlater⟩ := blind_persist middle last
          exact .inl ⟨hlater hmiddle, saved, hsaved⟩
      | panic =>
          rw [Run.bind_of_panic hcut, Run.bind_of_panic hfull]
          exact .inl ⟨hmiddle, last, rfl⟩
    · obtain rfl := hvalue
      rw [Run.bind_of_value hcut]
      rcases hfull :
          runWorkflows trigger prior context.uncancelled workflows
            (loaded.withPatience left) with
        ⟨_ | _, later⟩
      · rw [hfull] at hover
        rw [Run.bind_of_value hfull]
        exact .inr ⟨middle, later, hsteps, hgaveUp, hover, rfl, .inl rfl⟩
      · rw [hfull] at hover
        rw [Run.bind_of_panic hfull]
        exact .inr ⟨middle, later, hsteps, hgaveUp, hover, rfl, .inr rfl⟩
  · exact .inl ⟨hunasked, left, rfl⟩

end Engine

end RecordRules
