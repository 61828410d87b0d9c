import Mathlib.Data.List.Induction
import RecordRules.Proofs.LiteralWrites
import RecordRules.Proofs.Places

/-!
# Which fields count as written

Literals are written to a record, values are stored beside them, the schema is
replaced and the record is cleared, in any order.  At every moment the fields
that count as written are the ones that writes have stored since the record was
last cleared, and the changes give each of them the value it has by then.
-/

namespace RecordRules

theorem insertName_pairwise
    {names : List String} (h : names.Pairwise (· < ·)) (name : String) :
    (insertName name names).Pairwise (· < ·) := by
  induction names with
  | nil => simp [insertName]
  | cons head rest ih =>
      have hbelow := (List.pairwise_cons.mp h).1
      have hrest := (List.pairwise_cons.mp h).2
      by_cases hname : name = head
      · simpa [insertName, hname] using h
      by_cases hless : name < head
      · rw [insertName, if_neg hname, if_pos hless, List.pairwise_cons]
        refine ⟨?_, h⟩
        intro other hother
        rcases List.mem_cons.mp hother with rfl | hother
        · exact hless
        · exact String.lt_trans hless (hbelow other hother)
      · rw [insertName, if_neg hname, if_neg hless, List.pairwise_cons]
        refine ⟨?_, ih hrest⟩
        intro other hother
        rcases mem_insertName.mp hother with rfl | hother
        · exact Std.lt_of_le_of_ne (String.not_lt.mp hless) (Ne.symm hname)
        · exact hbelow other hother

/-- One operation on a record. -/
inductive RecordOperation where
  | write (name literal : String)
  | merge (fields : Fields)
  | setField (name : String) (value : Json)
  | setSchema (schema : Schema)
  | clear

namespace Record

/-- The record after an operation; a write that is refused leaves it as it
was. -/
def perform (record : Record) : RecordOperation → Record
  | .write name literal =>
    match record.setLiteral name literal with
    | .ok (_, after) => after
    | .error _ => record
  | .merge fields => record.mergeFields fields
  | .setField name value => record.withField name value
  | .setSchema schema => record.withSchema schema
  | .clear => record.clearChanges

/-- The record after some operations, one after the other. -/
def performAll (record : Record) (operations : List RecordOperation) : Record :=
  operations.foldl perform record

/-- The write succeeds and stores its value under the key, which is what the
name means from then on. -/
def Stores (record : Record) (name literal key : String) : Prop :=
  ∃ value after,
    record.setLiteral name literal = .ok (value, after) ∧
      after.fields = record.fields.insert key value ∧
      after.fields.resolve? name = some key

/-- A write among the operations stored the key, and the record was not cleared
after it. -/
def StoredSinceCleared
    (record : Record) (operations : List RecordOperation) (key : String) :
    Prop :=
  ∃ before name literal behind,
    operations = before ++ .write name literal :: behind ∧
      .clear ∉ behind ∧ (record.performAll before).Stores name literal key

/-! ## One operation -/

variable {record : Record} {key name literal : String}

theorem stores_iff :
    record.Stores name literal key ↔
      (∃ value, record.setLiteral name literal =
          .ok (value, record.store (record.writeKey name) value)) ∧
        record.writeKey name = key := by
  constructor
  · rintro ⟨value, after, hwritten, -, hmeans⟩
    have hafter := setLiteral_eq_ok hwritten
    rw [hafter, resolve?_store_writeKey, Option.some.injEq] at hmeans
    rw [hafter] at hwritten
    exact ⟨⟨value, hwritten⟩, hmeans⟩
  · rintro ⟨⟨value, hwritten⟩, rfl⟩
    exact ⟨value, _, hwritten, rfl, record.resolve?_store_writeKey name value⟩

/-- A write stores one field, which counts as written, or changes nothing. -/
theorem perform_write (record : Record) (name literal : String) :
    (∃ key value,
        record.Stores name literal key ∧
          record.perform (.write name literal) = record.store key value) ∨
      (∀ key, ¬ record.Stores name literal key) ∧
        record.perform (.write name literal) = record := by
  cases hset : record.setLiteral name literal with
  | error error =>
      refine .inr ⟨?_, by simp only [perform, hset]⟩
      rintro key ⟨value, after, hwritten, -⟩
      rw [hset] at hwritten
      cases hwritten
  | ok written =>
      obtain ⟨value, after⟩ := written
      have hafter := setLiteral_eq_ok hset
      refine .inl ⟨record.writeKey name, value, ?_, ?_⟩
      · exact stores_iff.mpr ⟨⟨value, hafter ▸ hset⟩, rfl⟩
      · simp only [perform, hset, hafter]

theorem Stores.unique
    {other : String} (h : record.Stores name literal key)
    (hother : record.Stores name literal other) :
    key = other :=
  (stores_iff.mp h).2.symm.trans (stores_iff.mp hother).2

/-- What counts as written after an operation counted so before, unless the
operation cleared the record, or the operation is a write that stored it. -/
theorem mem_dirty_perform (operation : RecordOperation) :
    key ∈ (record.perform operation).dirty ↔
      (operation ≠ .clear ∧ key ∈ record.dirty) ∨
        ∃ name literal,
          operation = .write name literal ∧ record.Stores name literal key := by
  cases operation with
  | write name literal =>
      rcases record.perform_write name literal with
        ⟨stored, value, hstores, hperform⟩ | ⟨hnone, hperform⟩
      · have hkey : record.Stores name literal key ↔ key = stored := by
          constructor
          · intro h
            exact h.unique hstores
          · rintro rfl
            exact hstores
        simp [hperform, store, mem_insertName, hkey, or_comm]
      · simp [hperform, hnone]
  | merge fields => simp [perform, mergeFields]
  | setField name value => simp [perform, withField]
  | setSchema schema => simp [perform, withSchema]
  | clear => simp [perform, clearChanges]

/-- No operation takes a field away. -/
theorem mem_names_perform
    (h : key ∈ record.fields.names) (operation : RecordOperation) :
    key ∈ (record.perform operation).fields.names := by
  cases operation with
  | write name literal =>
      rcases record.perform_write name literal with
        ⟨stored, value, -, hperform⟩ | ⟨-, hperform⟩
      · rw [hperform]
        exact Fields.mem_names_insert.mpr (.inr h)
      · rwa [hperform]
  | merge fields => exact Fields.mem_names_insertAll.mpr (.inl h)
  | setField name value => exact Fields.mem_names_insert.mpr (.inr h)
  | setSchema schema => exact h
  | clear => exact h

theorem Stores.mem_names (h : record.Stores name literal key) :
    key ∈ (record.perform (.write name literal)).fields.names := by
  obtain ⟨value, after, hwritten, -, hmeans⟩ := h
  simp only [perform, hwritten]
  exact (Fields.resolve?_eq_some hmeans).1

/-- What counts as written is listed in order, and each of it has a value. -/
structure ListsWritten (record : Record) : Prop where
  ordered : record.dirty.Pairwise (· < ·)
  kept : record.KeepsWritten

theorem ListsWritten.perform
    (h : record.ListsWritten) (operation : RecordOperation) :
    (record.perform operation).ListsWritten := by
  constructor
  · cases operation with
    | write name literal =>
        rcases record.perform_write name literal with
          ⟨key, value, -, hperform⟩ | ⟨-, hperform⟩
        · rw [hperform]
          exact insertName_pairwise h.ordered key
        · rw [hperform]
          exact h.ordered
    | merge fields => exact h.ordered
    | setField name value => exact h.ordered
    | setSchema schema => exact h.ordered
    | clear => exact .nil
  · intro key hkey
    apply Fields.isSome_get?_iff.mpr
    rcases (mem_dirty_perform operation).mp hkey with
      ⟨-, hbefore⟩ | ⟨name, literal, rfl, hstores⟩
    · have hstored := Fields.isSome_get?_iff.mp (h.kept key hbefore)
      exact mem_names_perform hstored operation
    · exact hstores.mem_names

/-! ## Many operations -/

variable {operations : List RecordOperation}

theorem performAll_snoc
    (record : Record) (operations : List RecordOperation)
    (operation : RecordOperation) :
    record.performAll (operations ++ [operation]) =
      (record.performAll operations).perform operation := by
  simp [performAll]

theorem storedSinceCleared_snoc {operation : RecordOperation} :
    record.StoredSinceCleared (operations ++ [operation]) key ↔
      (operation ≠ .clear ∧ record.StoredSinceCleared operations key) ∨
        ∃ name literal,
          operation = .write name literal ∧
            (record.performAll operations).Stores name literal key := by
  constructor
  · rintro ⟨before, name, literal, behind, hsplit, hclear, hstores⟩
    rcases split_of_snoc hsplit with
      ⟨rfl, rfl, -⟩ | ⟨rest, rfl, hrest⟩
    · exact .inr ⟨name, literal, rfl, hstores⟩
    · simp only [List.mem_append, List.mem_singleton, not_or] at hclear
      exact .inl ⟨Ne.symm hclear.2,
        before, name, literal, rest, hrest, hclear.1, hstores⟩
  · rintro (⟨hother, before, name, literal, behind, rfl, hclear, hstores⟩ |
      ⟨name, literal, rfl, hstores⟩)
    · refine ⟨before, name, literal, behind ++ [operation], by simp, ?_,
        hstores⟩
      simp [hclear, Ne.symm hother]
    · exact ⟨operations, name, literal, [], rfl, by simp, hstores⟩

/-- What counts as written is what was stored since the record was last
cleared. -/
theorem mem_dirty_performAll (hclean : record.dirty = []) :
    key ∈ (record.performAll operations).dirty ↔
      record.StoredSinceCleared operations key := by
  -- from behind: whether a write succeeds depends on the operations before it
  induction operations using List.reverseRecOn with
  | nil => simp [performAll, hclean, StoredSinceCleared]
  | append_singleton operations operation ih =>
      rw [performAll_snoc, mem_dirty_perform, ih, storedSinceCleared_snoc]

theorem ListsWritten.performAll
    (h : record.ListsWritten) (operations : List RecordOperation) :
    (record.performAll operations).ListsWritten := by
  induction operations using List.reverseRecOn with
  | nil => exact h
  | append_singleton operations operation ih =>
      rw [performAll_snoc]
      exact ih.perform operation

/-! ## Changes -/

theorem names_changes (hkept : record.KeepsWritten) :
    record.changes.names = record.dirty := by
  have hlist : ∀ names : List String,
      (∀ key ∈ names, (record.fields.get? key).isSome) →
        Fields.names (names.filterMap fun name =>
          (record.fields.get? name).map fun value => (name, value)) =
          names := by
    intro names hnames
    induction names with
    | nil => rfl
    | cons name rest ih =>
        obtain ⟨hname, hrest⟩ := List.forall_mem_cons.mp hnames
        obtain ⟨value, hvalue⟩ := Option.isSome_iff_exists.mp hname
        simpa [hvalue, Fields.names] using ih hrest
  exact hlist record.dirty hkept

/-- After some operations on a record, what counts as written is what writes
stored since it was last cleared, each under the name that the field has; the
changes hold just that, with the present values, and follow whatever is stored
over them. -/
structure TracksWritten
    (record : Record) (operations : List RecordOperation) (after : Record) :
    Prop where
  written : ∀ key, key ∈ after.dirty ↔ record.StoredSinceCleared operations key
  ordered : after.dirty.Pairwise (· < ·)
  stored : ∀ key ∈ after.dirty, key ∈ after.fields.names
  changed : after.changes.names = after.dirty
  present : ∀ key ∈ after.dirty, ∃ value,
    after.fields.get? key = some value ∧ after.changes.get? key = some value
  overwritten : ∀ key ∈ after.dirty, ∀ value,
    (after.withField key value).changes.get? key = some value
  merged : ∀ key ∈ after.dirty, ∀ fields value, key ∈ Fields.names fields →
    (∀ pair ∈ fields, pair.1 = key → pair.2 = value) →
      (after.mergeFields fields).changes.get? key = some value

/-- A record that starts clean accounts for its writes after any operations. -/
theorem written_fields_tracked
    (record : Record) (hclean : record.dirty = [])
    (operations : List RecordOperation) :
    record.TracksWritten operations (record.performAll operations) := by
  have hstart : record.ListsWritten := by
    constructor
    · simp [hclean]
    · simp [KeepsWritten, hclean]
  have hlists := hstart.performAll operations
  refine {
    written := fun key => mem_dirty_performAll hclean
    ordered := hlists.ordered
    stored := fun key hkey =>
      Fields.isSome_get?_iff.mp (hlists.kept key hkey)
    changed := names_changes hlists.kept
    present := ?_
    overwritten := ?_
    merged := ?_ }
  · intro key hkey
    obtain ⟨value, hvalue⟩ :=
      Option.isSome_iff_exists.mp (hlists.kept key hkey)
    exact ⟨value, hvalue, by rw [get?_changes hkey, hvalue]⟩
  · intro key hkey value
    rw [get?_changes (show key ∈ (withField _ key value).dirty from hkey)]
    exact Fields.get?_insert_self key value _
  · intro key hkey fields value hmem hvalue
    rw [get?_changes (show key ∈ (mergeFields _ fields).dirty from hkey)]
    exact Fields.get?_insertAll_of_mem hmem hvalue _

/-- A lead whose schema declares its owner under a spelling of its own. -/
def scoredLead : Record :=
  { ofFields "Lead" "L-1" [("Score", .int 10), ("Status", .string "New")] with
    schema := some ((Schema.mk "Lead" []).field "OwnerId" .identifier) }

/-- The status is written before the record is cleared, the second write to the
score is refused, and the last two operations store over what was written. -/
def rescoring : List RecordOperation :=
  [.write "status" "Open", .clear, .write "SCORE" "42", .write "score" "many",
    .write "ownerid" "U1", .setField "Score" (.int 50),
    .merge [("OwnerId", .string "U2")]]

/-- The changes are the owner and the score, as they are by then. -/
theorem written_fields_tracked_rescored :
    scoredLead.dirty = [] ∧
      (scoredLead.performAll rescoring).changes =
        [("OwnerId", .string "U2"), ("Score", .int 50)] ∧
      scoredLead.TracksWritten rescoring (scoredLead.performAll rescoring) :=
  ⟨rfl, rfl, written_fields_tracked scoredLead rfl rescoring⟩

end Record

end RecordRules
