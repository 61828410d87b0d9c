import Mathlib.Data.List.Basic
import RecordRules.Proofs.CutRuns
import RecordRules.Proofs.RecordWrites
import RecordRules.Proofs.Selection
import RecordRules.Proofs.TraceOrder

/-!
# Runs are cut at a clean point

Whenever the token is cancelled, the run up to there is the beginning of the
run that nobody cancels: it handed the same entries to the log, ran the same
actions and left the same effects.  What those actions wrote to the record is
still handed to the store, unless the run was cancelled before it began.
-/

namespace RecordRules

open Host (Effect Leads)
open Session (Overtaken Step adds_of_steps)

/-- If the actions wrote anything, the run ends by handing changes to the store
that give every written field its present value; the store may break off. -/
def HandsOver
    (host : Host) (actions : List Performed) (afterwards : List Moment)
    (cut : Ending Unit × Session) : Prop :=
  (∃ key, WritesKey actions key) →
    ∃ changes : Fields,
      (∀ key, WritesKey actions key →
        ∃ value,
          changes.get? key = some value ∧
            cut.2.record.fields.get? key = some value) ∧
      ((∃ answer,
          cut.1 = .value () ∧ afterwards = [.saved changes answer]) ∨
        (cut.1 = .panic ∧ afterwards = [] ∧
          ∃ index, host.faults .saveRecordChanges index = .panic))

/-- Compared with a run that nobody cancels, a run on the same surroundings and
the same record was cut at a clean point. -/
structure CleanCut
    (host : Host) (record : Record) (trigger : TriggerType)
    (prior : Option Record) (cut full : Ending Unit × Session) : Prop where
  /-- The log is a beginning of the full run's. -/
  logs : cut.2.host.store.logs <+: full.2.host.store.logs
  /-- So are the entries handed to the log, whether or not it took them. -/
  entries : entriesOf cut.2.trace <+: entriesOf full.2.trace
  /-- So are the actions that were run. -/
  actions : actionsOf cut.2.trace <+: actionsOf full.2.trace
  /-- Every effect but for saved changes is shared with the full run; among the
  shared effects are the entries that the log took. -/
  effects : ∃ shared saves rest,
    Leads (shared ++ saves) host cut.2.host ∧
      Leads (shared ++ rest) host full.2.host ∧
      (∀ effect ∈ shared, ¬ effect.OfSave) ∧
      (∀ effect ∈ saves, effect.OfSave) ∧
      (shared.filterMap Effect.entry?).Sublist (entriesOf cut.2.trace) ∧
      (host.KeepsLog →
        shared.filterMap Effect.entry? = entriesOf cut.2.trace)
  /-- An entry of a rule comes after those of all its actions, and an entry of a
  workflow when its rules have been told, or need not be. -/
  justified : Sound record trigger prior cut.2.trace
  /-- The count says that the run was cancelled exactly if it was told so. -/
  marked : cut.2.outcome.cancelled = true ↔ .asked true ∈ cut.2.trace
  /-- A run that is cancelled from the outset does nothing. -/
  atOnce : cut.2.trace.head? = some (.asked true) →
    cut.1 = .value () ∧ cut.2.host = host ∧ cut.2.record = record ∧
      cut.2.trace = [.asked true] ∧
      cut.2.outcome = { TriggerOutcome.zero with cancelled := true }
  /-- Otherwise what was written up to the cancellation is handed over. -/
  handsOver : ∀ before afterwards, before ≠ [] →
    cut.2.trace = before ++ .asked true :: afterwards →
      HandsOver host (actionsOf before) afterwards cut

/-! ## Traces without entries -/

theorem entriesOf_eq_nil_of_saves
    {moments : List Moment} (h : ∀ moment ∈ moments, moment.IsSave) :
    entriesOf moments = [] := by
  rw [entriesOf, List.filterMap_eq_nil_iff]
  intro moment hmem
  have hsave := h moment hmem
  cases moment <;> first | rfl | exact hsave.elim

theorem actionsOf_eq_nil_of_saves
    {moments : List Moment} (h : ∀ moment ∈ moments, moment.IsSave) :
    actionsOf moments = [] := by
  rw [actionsOf, List.filterMap_eq_nil_iff]
  intro moment hmem
  have hsave := h moment hmem
  cases moment <;> first | rfl | exact hsave.elim

theorem asked_notMem_of_saves
    {moments : List Moment} (h : ∀ moment ∈ moments, moment.IsSave)
    (answer : Bool) : .asked answer ∉ moments :=
  fun hmem => (h _ hmem).elim

namespace Engine

/-! ## What is handed over -/

theorem handsOver_persist
    {host : Host} {record : Record} {middle : Session}
    {actions : List Performed} {afterwards : List Moment}
    (hwrote : Wrote actions record middle.record)
    (hfaults : middle.host.faults = host.faults)
    (htrace : (persist middle).2.trace = middle.trace ++ afterwards) :
    HandsOver host actions afterwards (persist middle) := by
  rintro ⟨written, hwritten⟩
  have hdirty := (hwrote.mem_dirty written).mpr (.inr hwritten)
  refine ⟨middle.record.changes, ?_, ?_⟩
  · intro key hkey
    obtain ⟨value, hvalue⟩ :=
      Option.isSome_iff_exists.mp (hwrote.isSome_get? (.inr hkey))
    refine ⟨value, ?_, ?_⟩
    · have hkeyDirty := (hwrote.mem_dirty key).mpr (.inr hkey)
      rw [Record.get?_changes hkeyDirty, hvalue]
    · rw [persist_fields, hvalue]
  · rcases persist_cases middle with
      ⟨hclean, -⟩ | ⟨-, answer, later, hpersist, -⟩ |
        ⟨-, later, hpersist, -, hfault⟩
    · have hsome := (Record.isDirty_iff middle.record).mpr ⟨written, hdirty⟩
      rw [hclean] at hsome
      exact absurd hsome Bool.false_ne_true
    · rw [hpersist] at htrace
      rw [hpersist]
      exact .inl ⟨answer, rfl, (List.append_cancel_left htrace).symm⟩
    · rw [hpersist] at htrace
      rw [hpersist, ← hfaults]
      exact .inr ⟨rfl, by simpa using htrace, _, hfault⟩

/-! ## The three ways of a run -/

section Ways

variable {host : Host} {record : Record} {trigger : TriggerType}
  {prior : Option Record}

/-- What a run leaves behind: effects of its actions and entries that the log
took, and at last what it saves. -/
theorem runTrigger_effects
    (engine : Engine) (trigger : TriggerType) (prior : Option Record)
    (context : TriggerContext) (host : Host) (record : Record) :
    let last := (engine.runTrigger trigger prior context (.begin host record)).2
    ∃ effects saves,
      Leads (effects ++ saves) host last.host ∧
        (∀ effect ∈ effects, ¬ effect.OfSave) ∧
        (∀ effect ∈ saves, effect.OfSave) ∧
        (effects.filterMap Effect.entry?).Sublist (entriesOf last.trace) ∧
        (host.KeepsLog →
          effects.filterMap Effect.entry? = entriesOf last.trace) := by
  intro last
  obtain ⟨middle, hsteps, hends⟩ :=
    runTrigger_steps engine trigger prior context (.begin host record)
  obtain ⟨moments, effects, hadds⟩ := adds_of_steps hsteps
  have htrace : middle.trace = moments := by
    simpa [Session.begin] using hadds.trace
  rcases hends with hends | ⟨hends, -⟩
  · obtain ⟨saved, saves, hsaved, hmoments, hleads, hsaves, -⟩ :=
      persist_adds middle
    have hlast : last = (persist middle).2 := congrArg Prod.snd hends
    have hentries : entriesOf last.trace = entriesOf moments := by
      rw [hlast, hsaved, htrace, entriesOf_append,
        entriesOf_eq_nil_of_saves hmoments, List.append_nil]
    rw [hentries, hlast]
    exact ⟨effects, saves, hadds.host.trans hleads, hadds.unsavedEffects,
      hsaves, hadds.entries, hadds.keptEntries⟩
  · have hlast : last = middle := hends
    rw [hlast, htrace]
    refine ⟨effects, [], ?_, hadds.unsavedEffects, by simp, hadds.entries,
      hadds.keptEntries⟩
    rw [List.append_nil]
    exact hadds.host

theorem cleanCut_of_unasked
    (engine : Engine) (context : TriggerContext) (left : Option Nat)
    (hunasked :
      (engine.runTrigger trigger prior context
        (.begin host record)).2.Unasked) :
    CleanCut host record trigger prior
      (engine.runTrigger trigger prior context (.begin host record))
      ((engine.runTrigger trigger prior context (.begin host record)).1,
        (engine.runTrigger trigger prior context
          (.begin host record)).2.withPatience left) := by
  obtain ⟨shared, saves, hleads, hrest⟩ :=
    runTrigger_effects engine trigger prior context host record
  exact
    { logs := List.prefix_rfl
      entries := List.prefix_rfl
      actions := List.prefix_rfl
      effects := by
        exact ⟨shared, saves, saves, hleads, hleads.withPatience left, hrest⟩
      justified := sound_runTrigger context engine host record trigger prior
      marked := by simp [hunasked.1, hunasked.2]
      atOnce := fun hhead =>
        absurd (List.mem_of_mem_head? hhead) hunasked.1
      handsOver := fun before afterwards _ htrace => by
        refine absurd ?_ hunasked.1
        rw [htrace]
        simp }

theorem cleanCut_atOnce
    (engine : Engine) (context : TriggerContext)
    (henabled : engine.enabled = true) (hgivesUp : host.givesUp context = true) :
    CleanCut host record trigger prior
      (engine.runTrigger trigger prior context (.begin host record))
      (engine.runTrigger trigger prior context.uncancelled
        (.begin host record)) := by
  have hpatience : host.withPatience (host.patienceLeft context) = host := by
    have hboth :
        context.cancellable = true ∧ host.patience = some 0 := by
      simpa [Host.givesUp] using hgivesUp
    rw [Host.patienceLeft, if_pos hboth.1, hboth.2, Option.map_some,
      Nat.zero_sub, ← hboth.2, Host.withPatience_self]
  have hcut :
      engine.runTrigger trigger prior context (.begin host record) =
        (.value (),
          ⟨host, record, { TriggerOutcome.zero with cancelled := true },
            [.asked true]⟩) := by
    have hsession : (Session.begin host record).host.givesUp context = true :=
      hgivesUp
    rw [runTrigger_of_givesUp henabled trigger prior hsession]
    change (_, (⟨host.withPatience (host.patienceLeft context), _, _, _⟩ :
      Session)) = _
    rw [hpatience]
    rfl
  obtain ⟨effects, saves, hleads, -⟩ :=
    runTrigger_effects engine trigger prior context.uncancelled host record
  exact
    { logs := by
        rw [hcut, hleads.logs]
        exact List.prefix_append _ _
      entries := by
        rw [hcut]
        exact List.nil_prefix
      actions := by
        rw [hcut]
        exact List.nil_prefix
      effects := by
        refine ⟨[], [], effects ++ saves, ?_, hleads, by simp, by simp,
          by simp, fun _ => ?_⟩
        · rw [hcut]
          exact .refl host
        · rw [hcut]
          rfl
      justified := sound_runTrigger context engine host record trigger prior
      marked := by simp [hcut]
      atOnce := fun _ => by
        rw [hcut]
        exact ⟨rfl, rfl, rfl, rfl, rfl⟩
      handsOver := fun before afterwards hbefore htrace => by
        rw [hcut] at htrace
        cases before with
        | nil => exact absurd rfl hbefore
        | cons moment rest => simp at htrace }

theorem cleanCut_of_overtaken
    {middle later : Session} {full : Ending Unit × Session}
    {moments : List Moment} {effects : List Effect}
    (hadds : Session.Adds moments effects (.begin host record) middle)
    (hasked : middle.trace.head? = some (.asked false))
    (hmarked : middle.outcome.cancelled = true)
    (hovertaken : middle.Overtaken later)
    (hfull : full = persist later ∨ full = (.panic, later))
    (hsound : Sound record trigger prior (persist middle).2.trace) :
    CleanCut host record trigger prior (persist middle) full := by
  obtain ⟨shared, rest, more, hmiddle, hshared, hlater, hleads⟩ := hovertaken
  have htrace : middle.trace = moments := by
    simpa [Session.begin] using hadds.trace
  obtain ⟨saved, saves, hsaved, hmoments, hsavesLead, hsaves, houtcome⟩ :=
    persist_adds middle
  obtain ⟨fullSaved, fullSaves, hfullTrace, hfullLeads⟩ :
      ∃ moments effects,
        full.2.trace = later.trace ++ moments ∧
          Leads effects later.host full.2.host := by
    rcases hfull with rfl | rfl
    · obtain ⟨moments, effects, htrace, -, hleads, -⟩ := persist_adds later
      exact ⟨moments, effects, htrace, hleads⟩
    · exact ⟨[], [], by simp, .refl _⟩
  have hfullHost := hleads.trans hfullLeads
  have hcutTrace :
      (persist middle).2.trace = shared ++ .asked true :: saved := by
    rw [hsaved, hmiddle]
    simp
  have hlook : Moment.IsLook (.asked true) := trivial
  have hsharedEntries : entriesOf moments = entriesOf shared := by
    rw [← htrace, hmiddle, entriesOf_append, hlook.entriesOf, List.append_nil]
  have hsharedActions : actionsOf moments = actionsOf shared := by
    rw [← htrace, hmiddle, actionsOf_append, hlook.actionsOf, List.append_nil]
  have hcutEntries :
      entriesOf (persist middle).2.trace = entriesOf moments := by
    rw [hsaved, htrace, entriesOf_append, entriesOf_eq_nil_of_saves hmoments,
      List.append_nil]
  have hcutActions :
      actionsOf (persist middle).2.trace = actionsOf moments := by
    rw [hsaved, htrace, actionsOf_append, actionsOf_eq_nil_of_saves hmoments,
      List.append_nil]
  exact
    { logs := by
        have hsavesLogs := hsavesLead.logs_of_not_ofLog fun effect hmem =>
          (hsaves effect hmem).not_ofLog
        rw [hfullHost.logs, hsavesLogs]
        exact List.prefix_append _ _
      entries := by
        rw [hcutEntries, hsharedEntries, hfullTrace, hlater, List.append_assoc,
          entriesOf_append]
        exact List.prefix_append _ _
      actions := by
        rw [hcutActions, hsharedActions, hfullTrace, hlater, List.append_assoc,
          actionsOf_append]
        exact List.prefix_append _ _
      effects := by
        refine ⟨effects, saves, more ++ fullSaves,
          hadds.host.trans hsavesLead, hadds.host.trans hfullHost,
          hadds.unsavedEffects, hsaves, ?_⟩
        rw [hcutEntries]
        exact ⟨hadds.entries, hadds.keptEntries⟩
      justified := hsound
      marked := by simp [houtcome, hmarked, hcutTrace]
      atOnce := fun hhead => by
        rw [hsaved, List.head?_append, hasked] at hhead
        simp at hhead
      handsOver := fun before afterwards _ hplace => by
        have hunique :=
          (List.append_cons_inj_of_notMem hshared
            (asked_notMem_of_saves hmoments true)).mp
            (hplace.symm.trans hcutTrace |>.symm)
        obtain ⟨rfl, -, rfl⟩ := hunique
        rw [← hsharedActions]
        exact handsOver_persist hadds.record hadds.host.faults hsaved }

end Ways

/-- Whenever its token is cancelled, a run for an event is cut at a clean
point. -/
theorem runTrigger_cleanCut
    (engine : Engine) (host : Host) (record : Record) (trigger : TriggerType)
    (prior : Option Record) (context : TriggerContext) :
    CleanCut host record trigger prior
      (engine.runTrigger trigger prior context (.begin host record))
      (engine.runTrigger trigger prior context.uncancelled
        (.begin host record)) := by
  cases henabled : engine.enabled with
  | false =>
      have hidle := fun context => runTrigger_of_disabled henabled trigger
        prior context (.begin host record)
      have hunasked :
          (engine.runTrigger trigger prior context
            (.begin host record)).2.Unasked := by
        rw [hidle]
        simp [Session.Unasked, Session.begin, TriggerOutcome.zero]
      have hsame := cleanCut_of_unasked engine context host.patience hunasked
      rw [hidle] at hsame
      rw [hidle, hidle]
      exact hsame
  | true =>
      cases hgivesUp : host.givesUp context with
      | true => exact cleanCut_atOnce engine context henabled hgivesUp
      | false =>
          let asked : Session :=
            ⟨host.withPatience (host.patienceLeft context), record, .zero,
              [.asked false]⟩
          have hasked : Step (.begin host record) asked :=
            .looked (.begin host record) (.asked false) _ trivial
          have hunasked : asked.Unasked := by
            simp [Session.Unasked, asked, TriggerOutcome.zero]
          have hcut :
              engine.runTrigger trigger prior context (.begin host record) =
                runApplicable trigger prior context asked :=
            runTrigger_of_goesOn henabled trigger prior hgivesUp
          have hfull :
              engine.runTrigger trigger prior context.uncancelled
                  (.begin host record) =
                runApplicable trigger prior context.uncancelled
                  (asked.withPatience host.patience) :=
            runTrigger_of_goesOn henabled trigger prior rfl
          have hsound :=
            sound_runTrigger context engine host record trigger prior
          rcases runApplicable_compared trigger prior context hunasked
              host.patience with
            ⟨hcutUnasked, left, hsame⟩ |
              ⟨middle, later, hsteps, hmarked, hovertaken, hpersist, hends⟩
          · rw [hfull, hsame, ← hcut]
            rw [← hcut] at hcutUnasked
            exact cleanCut_of_unasked engine context left hcutUnasked
          · obtain ⟨moments, effects, hadds⟩ :=
              adds_of_steps (Relation.ReflTransGen.head hasked hsteps)
            obtain ⟨_, _, hlater⟩ := adds_of_steps hsteps
            rw [hcut, hpersist] at hsound
            rw [hcut, hfull, hpersist]
            refine cleanCut_of_overtaken hadds ?_ hmarked hovertaken hends
              hsound
            rw [hlater.trace]
            rfl

/-! ## Summaries of what the log has lost -/

/-- Pages somebody, by an action of a kind that is not known. -/
def page : Action :=
  .ofDefinition (.numbered 1) "Page"
    (.invalid none "page" (.unknownKind "page") .null)

/-- Pages somebody at once and then later; a third rule is never looked at. -/
def troubled : Workflow :=
  (((Workflow.ofName (.numbered 2) "Troubled" "Ticket" .onCreate).withRule
      ((Rule.ofName (.numbered 3) "At once").withAction page)).withRule
      ((Rule.ofName (.numbered 4) "Later").withAction
        { page with delayMinutes := 5 })).withRule
      (Rule.ofName (.numbered 5) "Never")

def noting : Workflow :=
  (Workflow.ofName (.numbered 6) "Noting" "Ticket" .onCreate).withRule
    ((Rule.ofName (.numbered 7) "Note").withAction
      (.createRecord (.numbered 8) "Note" []))

def late : Workflow :=
  .ofName (.numbered 9) "Late" "Ticket" .onCreate

/-- The log loses its first entry, the queue breaks off, and the run is
cancelled when a record is created. -/
def trouble : Host :=
  { (Host.ofWorkflows [troubled, noting, late] ⟨0, 0⟩).disturbed
      (((FaultPlan.calm.once .appendLog .error).always .scheduleDelayed
        .panic).always .createRecord .cancel) with
    defersActions := true }

/-- A log that loses entries may tell of a rule without telling of its action,
and a workflow that broke off is told of before all its rules were looked
at. -/
theorem runTrigger_partialSummaries :
    let session :=
      (Engine.runTrigger ⟨true⟩ .onCreate none
        { TriggerContext.detached with cancellable := true }
        (.begin trouble (.ofFields "Ticket" "t-1" []))).2
    session.outcome.cancelled = true ∧
      (∃ rule ∈ troubled.rules, ∃ action ∈ rule.actions,
        rule.isActive = true ∧ action.isActive = true ∧
          (∃ entry ∈ session.host.store.logs,
            entry.level = .rule ∧ entry.ruleId = some rule.id) ∧
          ∀ entry ∈ session.host.store.logs,
            entry.ruleId = some rule.id →
              entry.actionId ≠ some action.id) ∧
      (∃ rule ∈ troubled.rules,
        rule.isActive = true ∧
          (∃ entry ∈ session.host.store.logs,
            entry.level = .workflow ∧ entry.workflowId = troubled.id ∧
              entry.status ≠ .skipped) ∧
          rule.id ∉ (rulesOf session.trace).map fun weighed =>
            weighed.1.id) := by
  -- sorting is no computation that can be decided, so its results come first
  have hrules : troubled.activeRules = troubled.rules :=
    List.mergeSort_of_pairwise (by decide)
  have hworkflows :
      Workflow.applicable [troubled, noting, late] "Ticket" .onCreate =
        [troubled, noting, late] :=
    List.mergeSort_of_pairwise (by decide)
  have hrun :
      Engine.runTrigger ⟨true⟩ .onCreate none
        { TriggerContext.detached with cancellable := true }
        (.begin trouble (.ofFields "Ticket" "t-1" [])) = _ :=
    runTrigger_of_applicable rfl rfl rfl hworkflows none
  intro session
  have hsession : session = _ := congrArg Prod.snd hrun
  rw [hsession]
  simp only [runWorkflows, runGuarded, runWorkflow, weighRules, hrules]
  clear hrun hsession hworkflows hrules session
  decide +kernel

end Engine

end RecordRules
