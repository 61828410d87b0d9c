import RecordRules.Proofs.RecordWrites
import RecordRules.Proofs.SessionSteps

/-!
# No write is lost

A record that starts clean is given to the engine again and again, while the
surroundings change and saving fails or succeeds.  What an action ever wrote to
it counts as written still, or the store has it with its present value; and the
store has nothing else.
-/

namespace RecordRules

open Host (Leads)
open Session (adds_of_steps)

/-! ## Saved changes -/

namespace WorkflowStore

theorem lookup_mergeSaved
    (key : String × String) (changes : Fields)
    (saved : List ((String × String) × Fields)) :
    (mergeSaved key changes saved).lookup key =
      some (Fields.insertAll ((saved.lookup key).getD []) changes) := by
  induction saved with
  | nil => simp [mergeSaved]
  | cons entry rest ih =>
      obtain ⟨other, fields⟩ := entry
      by_cases hother : other = key
      · subst hother
        simp [mergeSaved]
      · have hne : (other == key) = false := by simpa using hother
        have hne' : (key == other) = false := by simpa using Ne.symm hother
        simp only [mergeSaved, hne, Bool.false_eq_true, if_false,
          List.lookup_cons, hne', ih]

theorem saved?_saveChanges
    (store : WorkflowStore) (recordType recordId : String) (changes : Fields) :
    (store.saveChanges recordType recordId changes).saved? recordType recordId =
      some (((store.saved? recordType recordId).getD []).insertAll changes) :=
  lookup_mergeSaved _ _ _

end WorkflowStore

def Host.savedOf (host : Host) (record : Record) : Option Fields :=
  host.store.saved? record.recordType record.id

/-- The store has the present value of the field. -/
def Host.HasSaved (host : Host) (record : Record) (key : String) : Prop :=
  ∃ saved value,
    host.savedOf record = some saved ∧ saved.get? key = some value ∧
      record.fields.get? key = some value

/-! ## Using the engine on a record -/

namespace Engine

/-- One use of the engine on a record. -/
inductive Call where
  /-- Workflows are selected for an event. -/
  | event
      (engine : Engine) (trigger : TriggerType) (prior : Option Record)
      (context : TriggerContext)
  /-- One workflow is run, whatever it is for. -/
  | single
      (engine : Engine) (workflow : Workflow) (trigger : TriggerType)
      (context : TriggerContext)

namespace Call

def run : Call → Run Session Unit
  | .event engine trigger prior context =>
    engine.runTrigger trigger prior context
  | .single engine workflow trigger context =>
    engine.runAlone workflow trigger context

/-- The run of the call on a record, and how it ended. -/
def on (call : Call) (host : Host) (record : Record) : Ending Unit × Session :=
  call.run (.begin host record)

/-- No workflow is run, so that there is nothing to be saved. -/
def RunsNothing (call : Call) (host : Host) (record : Record) : Prop :=
  match call with
  | .event engine trigger _ context =>
    engine.RunsNothing trigger context (.begin host record)
  | .single engine workflow _ _ =>
    (engine.enabled && workflow.isActive) = false

end Call

/-- The surroundings, the record and all moments after some uses of the engine
on a record that was clean, and of which nothing was saved, at first. -/
inductive History : Host → Record → List Moment → Prop
  | start (host : Host) (record : Record) :
      record.dirty = [] → host.savedOf record = none →
        History host record []
  | meanwhile {host : Host} {record : Record} {trace : List Moment}
      (later : Host) :
      History host record trace →
      later.savedOf record = host.savedOf record →
        History later record trace
  | call {host : Host} {record : Record} {trace : List Moment} (call : Call) :
      History host record trace →
        History (call.on host record).2.host (call.on host record).2.record
          (trace ++ (call.on host record).2.trace)

/-! ## What becomes of the writes of one call -/

/-- After a call, what it wrote was not saved and counts as written, beside all
that counted so before. -/
structure Keeps
    (call : Call) (host : Host) (record : Record)
    (ended : Ending Unit × Session) : Prop where
  wrote : Wrote (actionsOf ended.2.trace) record ended.2.record
  saved : ended.2.host.store.saved = host.store.saved
  unsaved : ∀ changes, .saved changes (.ok ()) ∉ ended.2.trace
  reason : ended.1 = .value () → ended.2.record.isDirty = true →
    call.RunsNothing host record ∨
      ∃ changes error, .saved changes (.error error) ∈ ended.2.trace

/-- After a call, the store has taken everything that counted as written. -/
structure Saves
    (host : Host) (record written : Record)
    (ended : Ending Unit × Session) : Prop where
  wrote : Wrote (actionsOf ended.2.trace) record written
  cleared : ended.2.record = written.clearChanges
  saved : ended.2.host.store.saved =
    (host.store.saveChanges written.recordType written.id written.changes).saved
  changes : ∀ changes,
    .saved changes (.ok ()) ∈ ended.2.trace ↔ changes = written.changes

theorem Call.on_steps (call : Call) (host : Host) (record : Record) :
    ∃ middle,
      Relation.ReflTransGen Session.Step (.begin host record) middle ∧
        (call.on host record = persist middle ∨
          (call.on host record).2 = middle ∧
            ((call.on host record).1 = .panic ∨
              call.RunsNothing host record)) := by
  cases call with
  | event engine trigger prior context =>
      exact runTrigger_steps engine trigger prior context (.begin host record)
  | single engine workflow trigger context =>
      exact runAlone_steps engine workflow trigger context (.begin host record)

theorem Call.keeps_or_saves (call : Call) (host : Host) (record : Record) :
    Keeps call host record (call.on host record) ∨
      ∃ written, Saves host record written (call.on host record) := by
  obtain ⟨middle, hsteps, hends⟩ := call.on_steps host record
  obtain ⟨moments, effects, hadds⟩ := adds_of_steps hsteps
  have htrace : middle.trace = moments := by
    simpa [Session.begin] using hadds.trace
  have hwrote : Wrote (actionsOf moments) record middle.record := hadds.record
  have hsaved : middle.host.store.saved = host.store.saved :=
    hadds.host.saved_of_not_ofSave hadds.unsavedEffects
  have hunsaved : ∀ changes answer, .saved changes answer ∉ middle.trace := by
    intro changes answer hmem
    rw [htrace] at hmem
    exact hadds.unsavedMoments _ hmem trivial
  rw [← htrace] at hwrote
  rcases hends with hends | ⟨hmiddle, hreason⟩
  · rw [hends]
    rcases persist_cases middle with
      ⟨hclean, hpersist⟩ |
        ⟨-, answer, later, hpersist, hanswer⟩ |
        ⟨-, later, hpersist, hleads, -⟩
    · rw [hpersist]
      refine .inl ⟨hwrote, hsaved, fun changes => hunsaved changes _, ?_⟩
      intro _ hdirty
      rw [hclean] at hdirty
      exact absurd hdirty Bool.false_ne_true
    · rw [hpersist]
      rcases hanswer with ⟨rfl, hleads⟩ | ⟨rfl, hleads⟩
      · refine .inr ⟨middle.record, ?_, rfl, ?_, ?_⟩
        · rw [actionsOf_append, actionsOf_saved, List.append_nil]
          exact hwrote
        · rw [hleads.saved_eq]
          simp only [WorkflowStore.saveChanges, hsaved]
        · intro changes
          simp [hunsaved]
      · refine .inl ⟨?_, ?_, ?_, ?_⟩
        · rw [actionsOf_append, actionsOf_saved, List.append_nil]
          exact hwrote
        · exact (hleads.saved_of_not_ofSave (by simp)).trans hsaved
        · intro changes hmem
          rcases List.mem_append.mp hmem with hmem | hmem
          · exact hunsaved changes _ hmem
          · simp at hmem
        · intro _ _
          exact .inr ⟨middle.record.changes, _,
            List.mem_append_right _ List.mem_cons_self⟩
    · rw [hpersist]
      refine .inl ⟨hwrote, ?_, fun changes => hunsaved changes _, by simp⟩
      exact (hleads.saved_of_not_ofSave (by simp)).trans hsaved
  · subst hmiddle
    refine .inl ⟨hwrote, hsaved, fun changes => hunsaved changes _, ?_⟩
    intro hvalue _
    refine .inl (hreason.resolve_left ?_)
    simp [hvalue]

/-! ## The record and the store keep together -/

section Kept

variable {call : Call} {host : Host} {record written : Record}
  {ended : Ending Unit × Session}

theorem Keeps.savedOf (h : Keeps call host record ended) :
    ended.2.host.savedOf ended.2.record = host.savedOf record := by
  obtain ⟨htype, hid⟩ := h.wrote.identity
  simp only [Host.savedOf, WorkflowStore.saved?, htype, hid, h.saved]

theorem Saves.savedOf (h : Saves host record written ended) :
    ended.2.host.savedOf ended.2.record =
      some (((host.savedOf record).getD []).insertAll written.changes) := by
  obtain ⟨htype, hid⟩ := h.wrote.identity
  calc
    ended.2.host.savedOf ended.2.record =
        (host.store.saveChanges written.recordType written.id
          written.changes).saved? written.recordType written.id := by
      simp only [Host.savedOf, WorkflowStore.saved?, h.saved, h.cleared,
        Record.clearChanges]
    _ = some (((host.savedOf record).getD []).insertAll written.changes) := by
      rw [WorkflowStore.saved?_saveChanges, htype, hid]
      rfl

theorem Saves.hasSaved
    (h : Saves host record written ended) (hkept : written.KeepsWritten)
    {key : String} (hkey : key ∈ written.dirty) :
    ended.2.host.HasSaved ended.2.record key := by
  obtain ⟨value, hvalue⟩ := Option.isSome_iff_exists.mp (hkept key hkey)
  refine ⟨_, value, h.savedOf, ?_, ?_⟩
  · rw [Record.get?_insertAll_changes hkept hkey, hvalue]
  · rw [h.cleared]
    exact hvalue

end Kept

/-- What is known of the record and the store after the moments of a
history. -/
structure Secured
    (host : Host) (record : Record) (trace : List Moment) : Prop where
  kept : record.KeepsWritten
  dirty : ∀ key ∈ record.dirty, WritesKey (actionsOf trace) key
  secured : ∀ key, WritesKey (actionsOf trace) key →
    key ∈ record.dirty ∨ host.HasSaved record key
  saved : ∀ saved, host.savedOf record = some saved →
    ∀ key ∈ saved.names, WritesKey (actionsOf trace) key

section Secured

variable {host : Host} {record written : Record} {trace : List Moment}
  {call : Call} {ended : Ending Unit × Session}

theorem Secured.start
    (hclean : record.dirty = []) (hnone : host.savedOf record = none) :
    Secured host record [] where
  kept := by simp [Record.KeepsWritten, hclean]
  dirty := by simp [hclean]
  secured := fun key hkey => absurd hkey (not_writesKey_nil key)
  saved := by simp [hnone]

theorem Secured.meanwhile
    (h : Secured host record trace) {later : Host}
    (hsame : later.savedOf record = host.savedOf record) :
    Secured later record trace where
  kept := h.kept
  dirty := h.dirty
  secured := by
    simp only [Host.HasSaved, hsame]
    exact h.secured
  saved := by
    rw [hsame]
    exact h.saved

theorem Secured.of_keeps
    (h : Secured host record trace) (hkeeps : Keeps call host record ended) :
    Secured ended.2.host ended.2.record (trace ++ ended.2.trace) where
  kept := hkeeps.wrote.keepsWritten h.kept
  dirty := fun key hkey => by
    rw [actionsOf_append, writesKey_append]
    exact ((hkeeps.wrote.mem_dirty key).mp hkey).imp_left (h.dirty key)
  secured := fun key hkey => by
    rw [actionsOf_append, writesKey_append] at hkey
    by_cases hnew : WritesKey (actionsOf ended.2.trace) key
    · exact .inl ((hkeeps.wrote.mem_dirty key).mpr (.inr hnew))
    · rcases h.secured key (hkey.resolve_right hnew) with
        hdirty | ⟨saved, value, hsaved, hstored, hpresent⟩
      · exact .inl ((hkeeps.wrote.mem_dirty key).mpr (.inl hdirty))
      · refine .inr ⟨saved, value, hkeeps.savedOf.trans hsaved, hstored, ?_⟩
        rw [hkeeps.wrote.get?_of_not_writesKey hnew, hpresent]
  saved := fun saved hsaved key hkey => by
    rw [hkeeps.savedOf] at hsaved
    rw [actionsOf_append, writesKey_append]
    exact .inl (h.saved saved hsaved key hkey)

theorem Secured.of_saves
    (h : Secured host record trace) (hsaves : Saves host record written ended) :
    Secured ended.2.host ended.2.record (trace ++ ended.2.trace) where
  kept := by simp [hsaves.cleared, Record.KeepsWritten, Record.clearChanges]
  dirty := by simp [hsaves.cleared, Record.clearChanges]
  secured := fun key hkey => by
    rw [actionsOf_append, writesKey_append] at hkey
    have hkept := hsaves.wrote.keepsWritten h.kept
    by_cases hdirty : key ∈ written.dirty
    · exact .inr (hsaves.hasSaved hkept hdirty)
    · -- it was saved earlier and has not been written since
      have hold := hdirty
      rw [hsaves.wrote.mem_dirty, not_or] at hold
      obtain ⟨saved, value, hsaved, hstored, hpresent⟩ :=
        (h.secured key (hkey.resolve_right hold.2)).resolve_left hold.1
      refine .inr ⟨_, value, hsaves.savedOf, ?_, ?_⟩
      · rw [Fields.get?_insertAll_of_notMem, hsaved]
        · exact hstored
        · exact fun hmem => hdirty (Record.mem_names_changes.mp hmem).1
      · rw [hsaves.cleared]
        exact (hsaves.wrote.get?_of_not_writesKey hold.2).trans hpresent
  saved := fun saved hsaved key hkey => by
    rw [actionsOf_append, writesKey_append]
    obtain rfl := Option.some.inj (hsaves.savedOf.symm.trans hsaved)
    rcases Fields.mem_names_insertAll.mp hkey with hold | hnew
    · cases hbefore : host.savedOf record with
      | none => simp [hbefore, Fields.names] at hold
      | some before =>
          rw [hbefore] at hold
          exact .inl (h.saved before hbefore key hold)
    · have hdirty := (Record.mem_names_changes.mp hnew).1
      exact ((hsaves.wrote.mem_dirty key).mp hdirty).imp_left (h.dirty key)

end Secured

theorem History.secured
    {host : Host} {record : Record} {trace : List Moment}
    (h : History host record trace) :
    Secured host record trace := by
  induction h with
  | start host record hclean hnone => exact .start hclean hnone
  | meanwhile later _ hsame ih => exact ih.meanwhile hsame
  | @call host record trace call _ ih =>
      rcases call.keeps_or_saves host record with hkeeps | ⟨_, hsaves⟩
      · exact ih.of_keeps hkeeps
      · exact ih.of_saves hsaves

/-- What one more call does about saving. -/
structure Settles
    (call : Call) (host : Host) (record : Record)
    (ended : Ending Unit × Session) : Prop where
  /-- If the store takes changes, they cover all that counted as written before
  and all that the call wrote, and nothing counts as written any more. -/
  taken : ∀ changes, .saved changes (.ok ()) ∈ ended.2.trace →
    ended.2.record.isDirty = false ∧
      ∀ key, key ∈ record.dirty ∨ WritesKey (actionsOf ended.2.trace) key →
        key ∈ changes.names ∧ ended.2.host.HasSaved ended.2.record key
  /-- If it does not, all of this counts as written still. -/
  refused : (∀ changes, .saved changes (.ok ()) ∉ ended.2.trace) →
    ended.2.host.savedOf ended.2.record = host.savedOf record ∧
      ∀ key, key ∈ record.dirty ∨ WritesKey (actionsOf ended.2.trace) key →
        key ∈ ended.2.record.dirty
  /-- A call that runs workflows to the end leaves something written only if
  the store refused it. -/
  reached : ended.1 = .value () → ¬ call.RunsNothing host record →
    ended.2.record.isDirty = true →
      ∃ changes error, .saved changes (.error error) ∈ ended.2.trace

theorem Call.settles
    (call : Call) {host : Host} {record : Record}
    (hkept : record.KeepsWritten) :
    Settles call host record (call.on host record) := by
  rcases call.keeps_or_saves host record with hkeeps | ⟨written, hsaves⟩
  · exact
      { taken := fun changes hmem => absurd hmem (hkeeps.unsaved changes)
        refused := fun _ =>
          ⟨hkeeps.savedOf, fun key => (hkeeps.wrote.mem_dirty key).mpr⟩
        reached := fun hvalue hruns hdirty =>
          (hkeeps.reason hvalue hdirty).resolve_left hruns }
  · have hwritten := hsaves.wrote.keepsWritten hkept
    have hclean : (call.on host record).2.record.isDirty = false := by
      rw [hsaves.cleared]
      rfl
    exact
      { taken := fun changes hmem => by
          obtain rfl := (hsaves.changes changes).mp hmem
          refine ⟨hclean, fun key hkey => ?_⟩
          have hdirty := (hsaves.wrote.mem_dirty key).mpr hkey
          exact ⟨Record.mem_names_changes.mpr ⟨hdirty, hwritten key hdirty⟩,
            hsaves.hasSaved hwritten hdirty⟩
        refused := fun hnone =>
          absurd ((hsaves.changes _).mpr rfl) (hnone written.changes)
        reached := fun _ _ hdirty => by
          rw [hclean] at hdirty
          exact absurd hdirty Bool.false_ne_true }

/-- After any number of calls on a record that was clean at first, with any
pattern of saves that fail, every field that an action ever wrote counts as
written or is saved with its present value; nothing else is saved; and the next
call settles what counts as written. -/
theorem no_write_is_lost
    {host : Host} {record : Record} {trace : List Moment}
    (h : History host record trace) :
    (∀ key, WritesKey (actionsOf trace) key →
      key ∈ record.dirty ∨ host.HasSaved record key) ∧
    (∀ saved, host.savedOf record = some saved →
      ∀ key ∈ saved.names, WritesKey (actionsOf trace) key) ∧
    ∀ call : Call, Settles call host record (call.on host record) :=
  ⟨h.secured.secured, h.secured.saved, fun call =>
    call.settles h.secured.kept⟩

/-- Marks a new ticket as open. -/
def opening : Workflow :=
  (Workflow.ofName (.numbered 1) "Opening" "Ticket" .onCreate).withRule
    ((Rule.ofName (.numbered 2) "Open").withAction
      (.updateField (.numbered 3) "Status" "Open"))

/-- Surroundings whose store refuses changes once. -/
def refusing : Host :=
  (Host.ofWorkflows [opening] ⟨0, 0⟩).disturbed
    (FaultPlan.calm.once .saveRecordChanges .error)

/-- A write whose save was refused is saved by the next call, which writes
nothing itself. -/
theorem no_write_is_lost_opening :
    let ticket := Record.ofFields "Ticket" "t-1" [("Status", .string "New")]
    let first :=
      (Call.event ⟨true⟩ .onCreate none .detached).on refusing ticket
    let second :=
      (Call.event ⟨true⟩ .onUpdate none .detached).on first.2.host
        first.2.record
    History second.2.host second.2.record
        ([] ++ first.2.trace ++ second.2.trace) ∧
      "Status" ∈ first.2.record.dirty ∧ second.2.record.dirty = [] ∧
      ("Status" ∈ second.2.record.dirty ∨
        second.2.host.HasSaved second.2.record "Status") := by
  intro ticket first second
  have hhistory :
      History second.2.host second.2.record
        ([] ++ first.2.trace ++ second.2.trace) :=
    .call _ (.call _ (.start refusing ticket rfl rfl))
  have hwritten :
      ∃ performed ∈ actionsOf ([] ++ first.2.trace ++ second.2.trace),
        performed.writtenKey = some "Status" := by
    decide +kernel
  exact ⟨hhistory, by decide +kernel, by decide +kernel,
    (no_write_is_lost hhistory).1 "Status" hwritten⟩

end Engine

end RecordRules
