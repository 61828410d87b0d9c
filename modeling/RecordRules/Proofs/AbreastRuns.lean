import Mathlib.Data.List.Forall2
import RecordRules.Proofs.AlikeResults

/-!
# Runs on one record side by side

What a run of a workflow on a record comes to depends on the record, and of the
surroundings on no more than its actions depend on, and on whether actions are
put off.  In surroundings that have this in common, such runs go abreast: entry
by entry they tell the log the same, and they count and save the same.
-/

namespace RecordRules

open Host (Akin Effect Leads)

/-! ## Entries that tell the same -/

/-- Entries that tell the same of the same thing. -/
structure LogEntry.Alike (entry other : LogEntry) : Prop where
  workflowId : other.workflowId = entry.workflowId
  ruleId : other.ruleId = entry.ruleId
  actionId : other.actionId = entry.actionId
  recordType : other.recordType = entry.recordType
  recordId : other.recordId = entry.recordId
  status : other.status = entry.status
  errorMessage : other.errorMessage = entry.errorMessage
  details : Option.Rel SameText entry.details other.details
  durationMs : other.durationMs = entry.durationMs

/-- What completes one entry completes another so that they tell the same, and
leaves them about their record. -/
def LogEntry.Completes (complete completeOther : LogEntry → LogEntry) : Prop :=
  ∀ entry other : LogEntry, entry.Alike other →
    (complete entry).Alike (completeOther other) ∧
      (complete entry).recordType = entry.recordType ∧
      (complete entry).recordId = entry.recordId

namespace LogEntry

theorem alike_ofWorkflow
    (id other workflowId : Uuid) (recordType recordId : String)
    (status : Status) (now otherNow : Time.Instant) :
    (ofWorkflow id workflowId recordType recordId status now).Alike
      (ofWorkflow other workflowId recordType recordId status otherNow) :=
  ⟨rfl, rfl, rfl, rfl, rfl, rfl, rfl, .none, rfl⟩

section Alike

variable {entry other : LogEntry}

theorem Alike.withDetails
    (h : entry.Alike other) {details otherDetails : String}
    (hdetails : SameText details otherDetails) :
    (entry.withDetails details).Alike (other.withDetails otherDetails) :=
  { h with details := .some hdetails }

theorem Alike.withError (h : entry.Alike other) (message : String) :
    (entry.withError message).Alike (other.withError message) :=
  { h with errorMessage := rfl }

theorem Alike.withDuration (h : entry.Alike other) (durationMs : Int) :
    (entry.withDuration durationMs).Alike (other.withDuration durationMs) :=
  { h with durationMs := rfl }

theorem Alike.forRule (h : entry.Alike other) (ruleId : Uuid) :
    (entry.forRule ruleId).Alike (other.forRule ruleId) :=
  { h with ruleId := rfl }

theorem Alike.forAction (h : entry.Alike other) (ruleId actionId : Uuid) :
    (entry.forAction ruleId actionId).Alike (other.forAction ruleId actionId) :=
  { h with ruleId := rfl, actionId := rfl }

theorem Alike.withResult
    (h : entry.Alike other) {result otherResult : ActionResult}
    (hresult : result.Alike otherResult) :
    (entry.withResult result).Alike (other.withResult otherResult) := by
  cases hresult with
  | refl =>
      have hduration := h.withDuration result.durationMs
      unfold LogEntry.withResult
      dsimp only
      split
      · exact hduration.withError _
      · exact hduration.withDetails (.refl _)
  | success _ _ htext => exact (h.withDuration 0).withDetails htext
  | pending _ _ htext => exact (h.withDuration 0).withDetails htext

end Alike

theorem completes_withDetails (details : String) :
    Completes (·.withDetails details) (·.withDetails details) :=
  fun _ _ h => ⟨h.withDetails (.refl details), rfl, rfl⟩

theorem completes_withError (message : String) :
    Completes (·.withError message) (·.withError message) :=
  fun _ _ h => ⟨h.withError message, rfl, rfl⟩

theorem completes_withResult
    (ruleId actionId : Uuid) {result other : ActionResult}
    (h : result.Alike other) :
    Completes (fun entry => (entry.forAction ruleId actionId).withResult result)
      (fun entry => (entry.forAction ruleId actionId).withResult other) := by
  intro entry otherEntry hentry
  refine ⟨(hentry.forAction ruleId actionId).withResult h, ?_⟩
  unfold LogEntry.withResult
  dsimp only
  split <;> exact ⟨rfl, rfl⟩

theorem completes_ruleEntry (ruleId : Uuid) (tally : RuleTally) :
    Completes (Engine.ruleEntry ruleId tally)
      (Engine.ruleEntry ruleId tally) := by
  intro entry other h
  have hdetails := (h.forRule ruleId).withDetails (.refl tally.details)
  unfold Engine.ruleEntry
  dsimp only
  split
  · exact ⟨hdetails.withError _, rfl, rfl⟩
  · exact ⟨hdetails, rfl, rfl⟩

end LogEntry

/-! ## Surroundings abreast -/

/-- Undisturbed surroundings in which the actions come to the same, now or put
off. -/
structure Host.Abreast (actions : List Action) (a b : Host) : Prop where
  akin : Akin a b
  defersActions : b.defersActions = a.defersActions
  logWritesFail : b.store.logWritesFail = a.store.logWritesFail
  /-- The same actions can be put off by the clocks. -/
  timely : ∀ action ∈ actions,
    (b.now.addSeconds (action.delayMinutes * 60)).isSome =
      (a.now.addSeconds (action.delayMinutes * 60)).isSome

theorem Host.Abreast.of_leads
    {actions : List Action} {a b a' b' : Host} {effects others : List Effect}
    (h : Abreast actions a b) (ha : Leads effects a a')
    (hb : Leads others b b') : Abreast actions a' b' where
  akin := h.akin.of_standing ha.standing hb.standing
  defersActions := by rw [hb.defersActions, h.defersActions, ha.defersActions]
  logWritesFail := by rw [hb.logWritesFail, h.logWritesFail, ha.logWritesFail]
  timely := by
    rw [ha.now, hb.now]
    exact h.timely

namespace Execution

theorem execute_eq_executeNow
    {action : Action} {host : Host}
    (hnow : ¬ (host.defersActions = true ∧ 0 < action.delayMinutes))
    (record : Record) (context : ExecutionContext) :
    execute action record context host =
      executeNow action record context host := by
  rw [execute, Run.gets_bind, if_neg (by simpa using hnow)]

theorem matches_execute
    {actions : List Action} {action : Action} (hmem : action ∈ actions)
    (record : Record) (context : ExecutionContext) :
    Run.Matches (Host.Abreast actions) SameDone (execute action record context)
      (execute action record context) := by
  intro a b hab
  by_cases hdeferred : a.defersActions = true ∧ 0 < action.delayMinutes
  · obtain ⟨hdefers, hdelay⟩ := hdeferred
    have htimely := hab.timely action hmem
    rw [execute_of_delayed action record context hab.akin.calm hdefers hdelay,
      execute_of_delayed action record context hab.akin.calmOther
        (hab.defersActions.trans hdefers) hdelay]
    -- Either both clocks can tell the instant to run at, or both runs break off.
    cases hrunAt : a.now.addSeconds (action.delayMinutes * 60) with
    | none =>
        rw [hrunAt, Option.isSome_none, Option.isSome_eq_false_iff,
          Option.isNone_iff_eq_none] at htimely
        rw [htimely]
        exact .panic hab
    | some runAt =>
        rw [hrunAt, Option.isSome_some] at htimely
        obtain ⟨other, hother⟩ := Option.isSome_iff_exists.mp htimely
        rw [hother]
        refine .value ⟨.pending _ _ (.scheduled runAt other), rfl⟩ ?_
        exact ⟨hab.akin.of_standing rfl rfl, hab.defersActions,
          hab.logWritesFail, hab.timely⟩
  · have hdeferredOther :
        ¬ (b.defersActions = true ∧ 0 < action.delayMinutes) := by
      rw [hab.defersActions]
      exact hdeferred
    rw [execute_eq_executeNow hdeferred, execute_eq_executeNow hdeferredOther]
    have hacts := acts_executeNow action record context
    obtain ⟨_, -, ha⟩ := hacts.leads a
    obtain ⟨_, -, hb⟩ := hacts.leads b
    exact (matches_executeNow action record context a b hab.akin).mono
      (hab.of_leads ha hb)

end Execution

/-! ## Sessions abreast -/

/-- Since two surroundings, entries about the record were written that tell the
same. -/
def Host.TellAlike (subject : Record) (a b later laterOther : Host) : Prop :=
  ∃ entries others,
    later.store.logs = a.store.logs ++ entries ∧
      laterOther.store.logs = b.store.logs ++ others ∧
      List.Forall₂ LogEntry.Alike entries others ∧
      ∀ other ∈ others,
        other.recordType = subject.recordType ∧ other.recordId = subject.id

/-- Sessions on the same record that were begun in two surroundings and have
done the same, and have not saved yet. -/
structure Session.Abreast
    (actions : List Action) (subject : Record) (a b : Host)
    (session other : Session) : Prop where
  host : Host.Abreast actions session.host other.host
  record : other.record = session.record
  recordType : session.record.recordType = subject.recordType
  recordId : session.record.id = subject.id
  outcome : other.outcome = session.outcome
  logs : Host.TellAlike subject a b session.host other.host
  saved : session.host.store.saved = a.store.saved
  savedOther : other.host.store.saved = b.store.saved

theorem Session.Abreast.begin
    {actions : List Action} {a b : Host} (h : Host.Abreast actions a b)
    (record : Record) :
    Abreast actions record a b (.begin a record) (.begin b record) where
  host := h
  record := rfl
  recordType := rfl
  recordId := rfl
  outcome := rfl
  logs := ⟨[], [], by simp [Session.begin], by simp [Session.begin], .nil,
    by simp⟩
  saved := rfl
  savedOther := rfl

theorem Host.Leads.unwritten
    {effects : List Effect} {before later : Host}
    (h : Leads effects before later)
    (hactions : ∀ effect ∈ effects, effect.OfAction) :
    later.store.logs = before.store.logs ∧
      later.store.saved = before.store.saved := by
  constructor
  · exact h.logs_of_not_ofLog fun effect hmem =>
      (hactions effect hmem).not_ofLog
  · exact h.saved_of_not_ofSave fun effect hmem =>
      (hactions effect hmem).not_ofSave

/-- Entries that tell the same of the record are written to both logs, or to
none. -/
theorem Host.TellAlike.logged
    {subject : Record} {a b first second later laterOther : Host}
    {entry other : LogEntry} (h : TellAlike subject a b first second)
    (hfails : second.store.logWritesFail = first.store.logWritesFail)
    (hentry : entry.Alike other)
    (habout : entry.recordType = subject.recordType ∧
      entry.recordId = subject.id)
    (hfirst : Leads (entry.logging first) first later)
    (hsecond : Leads (other.logging second) second laterOther) :
    TellAlike subject a b later laterOther := by
  obtain ⟨entries, others, hlogs, hlogsOther, halike, hall⟩ := h
  have hlater := hfirst.logs
  have hlaterOther := hsecond.logs
  rw [LogEntry.logging] at hlater hlaterOther
  cases hwrites : first.store.logWritesFail with
  | true =>
      rw [hwrites] at hfails
      refine ⟨entries, others, ?_, ?_, halike, hall⟩
      · simpa [hwrites, hlogs] using hlater
      · simpa [hfails, hlogsOther] using hlaterOther
  | false =>
      rw [hwrites] at hfails
      refine ⟨entries ++ [entry], others ++ [other], ?_, ?_,
        List.rel_append halike (.cons hentry .nil), ?_⟩
      · simpa [hwrites, hlogs, Effect.entry?] using hlater
      · simpa [hfails, hlogsOther, Effect.entry?] using hlaterOther
      · intro told hmem
        rcases List.mem_append.mp hmem with hmem | hmem
        · exact hall told hmem
        · rw [List.mem_singleton.mp hmem, hentry.recordType, hentry.recordId]
          exact habout

/-- What two runs on the same record leave that went abreast: entries that tell
the same, and the same changes of the record saved. -/
structure Host.EndAbreast
    (subject : Record) (a b later laterOther : Host) : Prop where
  logs : TellAlike subject a b later laterOther
  saved : ∃ final : Record,
    final.recordType = subject.recordType ∧ final.id = subject.id ∧
      later.store.saved = final.savedOver a.store.saved ∧
      laterOther.store.saved = final.savedOver b.store.saved

namespace Engine

open Session (Abreast)

section Abreast

variable {actions : List Action} {subject : Record} {a b : Host}
  {context : TriggerContext}

theorem matches_remember (moment other : Moment) :
    Run.Matches (Abreast actions subject a b) Eq (Session.remember moment)
      (Session.remember other) :=
  .modify fun _ _ h => { h with }

theorem matches_count (change : TriggerOutcome → TriggerOutcome) :
    Run.Matches (Abreast actions subject a b) Eq (Session.count change)
      (Session.count change) :=
  .modify fun _ _ h => { h with outcome := congrArg change h.outcome }

theorem matches_record :
    Run.Matches (Abreast actions subject a b) Eq (Run.gets Session.record)
      (Run.gets Session.record) :=
  .gets fun _ _ h => h.record.symm

theorem matches_isCancelled (hdetached : context.cancellable = false) :
    Run.Matches (Abreast actions subject a b)
      (fun answer other => answer = false ∧ other = false)
      (isCancelled context) (isCancelled context) := by
  intro session other h
  rw [isCancelled_apply, isCancelled_apply]
  have hgoesOn : ∀ host : Host, host.givesUp context = false := by
    intro host
    rw [Host.givesUp, hdetached, Bool.false_and]
  have hpatience : ∀ host : Host,
      host.withPatience (host.patienceLeft context) = host := by
    intro host
    rw [Host.patienceLeft, hdetached]
    rfl
  rw [hpatience, hpatience]
  exact .value ⟨hgoesOn _, hgoesOn _⟩ { h with }

theorem matches_sessionExecute
    {action : Action} (hmem : action ∈ actions) (context : ExecutionContext) :
    Run.Matches (Abreast actions subject a b) ActionResult.Alike
      (Session.execute action context) (Session.execute action context) := by
  intro session other h
  have hacts := Execution.acts_execute action session.record context
  obtain ⟨effects, hactions, hleads⟩ := hacts.leads session.host
  obtain ⟨others, hothers, hleadsOther⟩ := hacts.leads other.host
  have hmatched :=
    Execution.matches_execute hmem session.record context _ _ h.host
  rcases hrun : Execution.execute action session.record context session.host
    with ⟨ending, later⟩
  rcases hrunOther : Execution.execute action session.record context other.host
    with ⟨endingOther, laterOther⟩
  rw [hrun] at hmatched hleads
  rw [hrunOther] at hmatched hleadsOther
  -- An action by itself writes no entry and saves nothing: what it changes in
  -- the session are the record and the count.
  obtain ⟨hlogs, hsaved⟩ := hleads.unwritten hactions
  obtain ⟨hlogsOther, hsavedOther⟩ := hleadsOther.unwritten hothers
  have htold : Host.TellAlike subject a b later laterOther := by
    unfold Host.TellAlike
    rw [hlogs, hlogsOther]
    exact h.logs
  rw [← h.record] at hrunOther
  cases hmatched with
  | panic hhost =>
      rw [execute_of_panic hrun, execute_of_panic hrunOther]
      exact .panic
        { h with
          host := hhost
          logs := htold
          saved := hsaved.trans h.saved
          savedOther := hsavedOther.trans h.savedOther }
  | value hdone hhost =>
      rename_i done doneOther
      obtain ⟨hresult, hrecord⟩ := hdone
      have hfaithful :=
        (Execution.yields_execute action session.record context _ _ _ hrun).2
      have hwrote : Wrote [⟨context, action, session.record, done.1, done.2⟩]
          session.record done.2 := .one _ hfaithful
      rw [execute_of_value hrun, execute_of_value hrunOther]
      exact .value hresult
        { host := hhost
          record := hrecord
          recordType := hwrote.identity.1.trans h.recordType
          recordId := hwrote.identity.2.trans h.recordId
          outcome := by rw [hresult.status_eq, h.outcome]
          logs := htold
          saved := hsaved.trans h.saved
          savedOther := hsavedOther.trans h.savedOther }

theorem matches_log
    (workflowId : Uuid) (status : Status)
    {complete completeOther : LogEntry → LogEntry}
    (hcomplete : LogEntry.Completes complete completeOther) :
    Run.Matches (Abreast actions subject a b) Eq
      (log workflowId status complete)
      (log workflowId status completeOther) := by
  intro session other h
  rw [log_apply, log_apply]
  let entry := nextEntry workflowId status complete session
  let entryOther := nextEntry workflowId status completeOther other
  obtain ⟨halike, hrecordType, hrecordId⟩ :=
    hcomplete _ _
      (LogEntry.alike_ofWorkflow session.host.ids.draw.1 other.host.ids.draw.1
        workflowId session.record.recordType session.record.id status
        session.host.now other.host.now)
  have hentry : entry.Alike entryOther := by
    unfold entryOther nextEntry
    rw [h.record]
    exact halike
  have hdrawn : Host.Abreast actions (drawn session) (drawn other) :=
    h.host.of_leads (.of_counters session.host _ _ _)
      (.of_counters other.host _ _ _)
  obtain ⟨later, hwrite, hleads⟩ := writeLog_of_calm entry hdrawn.akin.calm
  obtain ⟨laterOther, hwriteOther, hleadsOther⟩ :=
    writeLog_of_calm entryOther hdrawn.akin.calmOther
  have hlogs : Host.TellAlike subject a b (drawn session) (drawn other) :=
    h.logs
  have htold : Host.TellAlike subject a b later laterOther :=
    hlogs.logged h.host.logWritesFail hentry
      ⟨hrecordType.trans h.recordType, hrecordId.trans h.recordId⟩ hleads
      hleadsOther
  have hsaved : later.store.saved = session.host.store.saved :=
    hleads.saved_of_not_ofSave (LogEntry.unsaved_logging _ _)
  have hsavedOther : laterOther.store.saved = other.host.store.saved :=
    hleadsOther.saved_of_not_ofSave (LogEntry.unsaved_logging _ _)
  rw [hwrite, hwriteOther]
  exact .value rfl
    { h with
      host := hdrawn.of_leads hleads hleadsOther
      logs := htold
      saved := hsaved.trans h.saved
      savedOther := hsavedOther.trans h.savedOther }

theorem matches_runActions
    (hdetached : context.cancellable = false) (workflowId ruleId : Uuid)
    (tally : RuleTally) {rest : List Action} (hrest : rest ⊆ actions) :
    Run.Matches (Abreast actions subject a b) Eq
      (runActions workflowId ruleId context tally rest)
      (runActions workflowId ruleId context tally rest) := by
  induction rest generalizing tally with
  | nil => exact .pure rfl
  | cons action rest ih =>
      obtain ⟨hmem, hrest⟩ := List.cons_subset.mp hrest
      refine .bind (matches_isCancelled hdetached) ?_
      rintro _ _ ⟨rfl, rfl⟩
      refine .bind (matches_sessionExecute hmem _) fun result other hresult => ?_
      rw [hresult.status_eq]
      refine .bind (matches_log workflowId result.status
        (LogEntry.completes_withResult ruleId action.id hresult)) fun _ _ _ => ?_
      exact ih (tally.add result.status) hrest

theorem matches_runRule
    (hdetached : context.cancellable = false) (workflowId : Uuid) {rule : Rule}
    (hrule : rule.activeActions ⊆ actions) :
    Run.Matches (Abreast actions subject a b) Eq
      (runRule workflowId context rule) (runRule workflowId context rule) := by
  refine .bind (matches_count _) fun _ _ _ => ?_
  refine .bind (matches_runActions hdetached workflowId rule.id .zero hrule) ?_
  rintro tally _ rfl
  cases tally with
  | none => exact .pure rfl
  | some done =>
      exact .bind (matches_log workflowId done.status
        (LogEntry.completes_ruleEntry rule.id done)) fun _ _ _ => .pure rfl

theorem matches_runRules
    (hdetached : context.cancellable = false) (workflowId : Uuid)
    (prior : Option Record) (tally : RulesTally) {rules : List Rule}
    (hrules : ∀ rule ∈ rules, rule.activeActions ⊆ actions) :
    Run.Matches (Abreast actions subject a b) Eq
      (runRules workflowId prior context tally rules)
      (runRules workflowId prior context tally rules) := by
  induction rules generalizing tally with
  | nil => exact .pure rfl
  | cons rule rest ih =>
      obtain ⟨hrule, hrest⟩ := List.forall_mem_cons.mp hrules
      refine .bind (matches_isCancelled hdetached) ?_
      rintro _ _ ⟨rfl, rfl⟩
      refine .bind matches_record ?_
      rintro record _ rfl
      refine .bind (matches_remember _ _) fun _ _ _ => ?_
      split
      · refine .bind (matches_runRule hdetached workflowId hrule) ?_
        rintro done _ rfl
        cases done with
        | none => exact .pure rfl
        | some done => exact ih _ hrest
      · exact ih tally hrest

theorem matches_finish (workflow : Workflow) (tally : RulesTally) :
    Run.Matches (Abreast actions subject a b) Eq
      (finish workflow context tally) (finish workflow context tally) := by
  unfold finish
  split
  · exact .bind (matches_log workflow.id .skipped
      (LogEntry.completes_withDetails _)) fun _ _ _ => .pure rfl
  · refine .bind (matches_count _) fun _ _ _ => ?_
    dsimp only
    split
    · exact .bind (matches_log workflow.id .success
        (LogEntry.completes_withDetails _)) fun _ _ _ => .pure rfl
    · refine .bind (matches_log workflow.id .failed ?_) fun _ _ _ => .pure rfl
      exact fun entry other h =>
        ⟨(h.withDetails (.refl _)).withError _, rfl, rfl⟩

theorem matches_passOver (workflow : Workflow) :
    Run.Matches (Abreast actions subject a b) Eq (passOver workflow)
      (passOver workflow) := by
  refine .bind (matches_count _) fun _ _ _ => ?_
  exact .bind (matches_log workflow.id .skipped
    (LogEntry.completes_withDetails _)) fun _ _ _ => .pure rfl

variable {workflow : Workflow}
  (hdetached : context.cancellable = false)
  (hactions : ∀ rule ∈ workflow.activeRules, rule.activeActions ⊆ actions)

include hdetached hactions

theorem matches_runWorkflow (trigger : TriggerType) (prior : Option Record) :
    Run.Matches (Abreast actions subject a b) Eq
      (runWorkflow workflow trigger prior context)
      (runWorkflow workflow trigger prior context) := by
  refine .bind (matches_remember _ _) fun _ _ _ => ?_
  refine .bind (matches_count _) fun _ _ _ => ?_
  refine .bind matches_record ?_
  rintro record _ rfl
  split
  · refine .bind (matches_runRules hdetached workflow.id prior ⟨0, 0⟩ hactions) ?_
    rintro tally _ rfl
    cases tally with
    | none => exact .pure rfl
    | some tally => exact matches_finish workflow tally
  · exact matches_passOver workflow

theorem matches_runGuarded (trigger : TriggerType) (prior : Option Record) :
    Run.Matches (Abreast actions subject a b) Eq
      (runGuarded workflow trigger prior context)
      (runGuarded workflow trigger prior context) := by
  refine .bind (matches_runWorkflow hdetached hactions trigger prior).guarded ?_
  intro caught other hcaught
  cases hcaught with
  | some hsame =>
      subst hsame
      exact .pure rfl
  | none =>
      exact .bind (matches_log workflow.id .failed
        (LogEntry.completes_withError _)) fun _ _ _ => .pure rfl

omit hdetached hactions

/-! ## To the end of a run -/

theorem log_ends
    (workflowId : Uuid) (status : Status) (complete : LogEntry → LogEntry)
    {session : Session} (hcalm : session.host.faults = .calm) :
    Run.Ends (log workflowId status complete) session := by
  rw [Run.Ends, log_apply]
  obtain ⟨later, hwrite, -⟩ :=
    writeLog_of_calm (nextEntry workflowId status complete session)
      (show (drawn session).faults = .calm from hcalm)
  rw [hwrite]
  exact ⟨_, _, rfl⟩

theorem runGuarded_ends
    (workflow : Workflow) (trigger : TriggerType) (prior : Option Record)
    (context : TriggerContext) {session : Session}
    (hcalm : session.host.faults = .calm) :
    Run.Ends (runGuarded workflow trigger prior context) session := by
  refine .bind (.guarded _ _) fun caught later hcaught => ?_
  cases caught with
  | some run => exact ⟨run, later, rfl⟩
  | none =>
      have hsteps :=
        (reaches_runWorkflow workflow trigger prior context).guarded session
      rw [hcaught] at hsteps
      obtain ⟨_, effects, hadds⟩ := Session.adds_of_steps hsteps
      refine .bind (log_ends _ _ _ ?_) fun _ last _ => ⟨_, last, rfl⟩
      exact hadds.host.faults.trans hcalm

theorem persist_of_calm
    {session : Session} (hcalm : session.host.faults = .calm) :
    ∃ later,
      persist session = (.value (), later) ∧
        later.outcome = session.outcome ∧
        Leads session.record.saving session.host later.host := by
  obtain ⟨answer, host, hsave, hleads⟩ :=
    saveWrites_of_calm session.record hcalm
  have hsaved :
      Session.onHost (saveWrites session.record) session =
        (.value answer, { session with host }) := by
    rw [Session.onHost, Run.within_apply, hsave]
  rw [persist, Run.gets_bind, Run.bind_of_value hsaved]
  cases answer with
  | none => exact ⟨_, rfl, rfl, hleads⟩
  | some answer => exact ⟨_, rfl, rfl, hleads⟩

/-- Sessions abreast save the same beside what was saved before. -/
theorem persist_abreast
    {session other : Session} (h : Abreast actions subject a b session other) :
    ∃ later laterOther,
      persist session = (.value (), later) ∧
        persist other = (.value (), laterOther) ∧
        laterOther.outcome = later.outcome ∧
        Host.EndAbreast subject a b later.host laterOther.host := by
  obtain ⟨later, hpersist, houtcome, hleads⟩ :=
    persist_of_calm h.host.akin.calm
  obtain ⟨laterOther, hpersistOther, houtcomeOther, hleadsOther⟩ :=
    persist_of_calm h.host.akin.calmOther
  rw [h.record] at hleadsOther
  refine ⟨later, laterOther, hpersist, hpersistOther,
    by rw [houtcomeOther, houtcome, h.outcome], ?_⟩
  have hunlogged : ∀ effect ∈ session.record.saving, ¬ effect.OfLog :=
    fun effect hmem => (session.record.ofSave_saving effect hmem).not_ofLog
  have hlogs := hleads.logs_of_not_ofLog hunlogged
  have hlogsOther := hleadsOther.logs_of_not_ofLog hunlogged
  exact
    { logs := by
        unfold Host.TellAlike
        rw [hlogs, hlogsOther]
        exact h.logs
      saved := by
        refine ⟨session.record, h.recordType, h.recordId, ?_, ?_⟩
        · rw [← h.saved]
          exact saved_of_saving (Leads.trans (.refl _) hleads) (by simp)
        · rw [← h.savedOther]
          exact saved_of_saving (Leads.trans (.refl _) hleadsOther)
            (by simp) }

/-- What follows the evaluation of the only workflow of a run, before what was
written is saved. -/
def closing : WorkflowRun → Run Session Unit
  | .cancelled => markCancelled
  | _ => pure ()

theorem runAlone_apply
    (engine : Engine) (trigger : TriggerType) (session : Session) :
    engine.runAlone workflow trigger context session =
      if engine.enabled && workflow.isActive then
        ((runGuarded workflow trigger none context >>= closing) >>=
          fun _ => persist) session
      else (.value (), session) := by
  unfold runAlone
  split
  · rw [bind_assoc]
    refine congrArg
      (fun next => (runGuarded workflow trigger none context >>= next) session)
      (funext fun run => ?_)
    cases run <;> rfl
  · rfl

theorem runAlone_abreast
    (hdetached : context.cancellable = false)
    (hactions : ∀ rule ∈ workflow.activeRules, rule.activeActions ⊆ actions)
    (engine : Engine) (trigger : TriggerType) {session other : Session}
    (h : Abreast actions subject a b session other) :
    ∃ later laterOther,
      engine.runAlone workflow trigger context session = (.value (), later) ∧
        engine.runAlone workflow trigger context other =
          (.value (), laterOther) ∧
        laterOther.outcome = later.outcome ∧
        Host.EndAbreast subject a b later.host laterOther.host := by
  rw [runAlone_apply, runAlone_apply]
  split
  -- What was written is saved even when the evaluation was cancelled.
  · have hclosing : ∀ run runOther, run = runOther →
        Run.Matches (Abreast actions subject a b) Eq (closing run)
          (closing runOther) := by
      rintro run _ rfl
      cases run with
      | cancelled =>
          change Run.Matches _ Eq markCancelled markCancelled
          exact matches_count _
      | _ => exact .pure rfl
    have hmatched :=
      (matches_runGuarded hdetached hactions trigger none).bind hclosing
        session other h
    obtain ⟨⟨⟩, middle, hends⟩ :
        Run.Ends (runGuarded workflow trigger none context >>= closing)
          session := by
      refine .bind (runGuarded_ends workflow trigger none context
        h.host.akin.calm) fun run middle _ => ?_
      cases run <;> exact ⟨(), _, rfl⟩
    rcases hother :
        (runGuarded workflow trigger none context >>= closing) other
      with ⟨ending, middleOther⟩
    rw [hends, hother] at hmatched
    cases hmatched with
    | value _ hmiddle =>
        obtain ⟨later, laterOther, hpersist, hpersistOther, houtcome, hends'⟩ :=
          persist_abreast hmiddle
        exact ⟨later, laterOther, (Run.bind_of_value hends _).trans hpersist,
          (Run.bind_of_value hother _).trans hpersistOther, houtcome, hends'⟩
  · refine ⟨session, other, rfl, rfl, h.outcome, h.logs, subject.clearChanges,
      rfl, rfl, h.saved, h.savedOther⟩

theorem processWorkflow_abreast
    (hdetached : context.cancellable = false)
    (hactions : ∀ rule ∈ workflow.activeRules, rule.activeActions ⊆ actions)
    (engine : Engine) (trigger : TriggerType) (record : Record)
    (h : Host.Abreast actions a b) :
    ∃ outcome written writtenOther later laterOther,
      engine.processWorkflow workflow record trigger context a =
          (.value (outcome, written), later) ∧
        engine.processWorkflow workflow record trigger context b =
          (.value (outcome, writtenOther), laterOther) ∧
        Host.EndAbreast record a b later laterOther := by
  obtain ⟨later, laterOther, hrun, hrunOther, houtcome, hends⟩ :=
    runAlone_abreast hdetached hactions engine trigger (.begin h record)
  refine ⟨later.outcome, later.record, laterOther.record, later.host,
    laterOther.host, ?_, ?_, hends⟩
  · rw [processWorkflow, Session.start, hrun]
  · rw [processWorkflow, Session.start, hrunOther, ← houtcome]

/-- However a run goes, it leaves effects only. -/
theorem processWorkflow_leads
    (engine : Engine) (workflow : Workflow) (record : Record)
    (trigger : TriggerType) (context : TriggerContext) (host : Host) :
    ∃ effects,
      Leads effects host
        (engine.processWorkflow workflow record trigger context host).2 := by
  have hstart :
      (engine.processWorkflow workflow record trigger context host).2 =
        (engine.runAlone workflow trigger context (.begin host record)).2.host := by
    unfold processWorkflow Session.start
    split <;> simp_all
  rw [hstart]
  obtain ⟨middle, hsteps, hend⟩ :=
    engine.runAlone_steps workflow trigger context (.begin host record)
  obtain ⟨_, effects, hadds⟩ := Session.adds_of_steps hsteps
  rcases hend with hpersist | ⟨hmiddle, -⟩
  · obtain ⟨_, saves, -, -, hsaves, -⟩ := persist_adds middle
    rw [hpersist]
    exact ⟨_, hadds.host.trans hsaves⟩
  · rw [hmiddle]
    exact ⟨effects, hadds.host⟩

end Abreast

end Engine

end RecordRules
