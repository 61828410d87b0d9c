import RecordRules.Proofs.Snapshots
import RecordRules.Proofs.WrittenFields

/-!
# Records that are restored from snapshots

A snapshot keeps all of a record but what counts as written, and nothing that a
record is asked or told to do depends on that.  So a restored record cannot be
told from the one it was taken of: both are read alike, and a write to either
comes to the same, at once or after other operations.
-/

namespace RecordRules
namespace Record

/-- What comes of a write: the stored value and the record, but for what counts
as written, or the error. -/
def outcome (record : Record) (name literal : String) :
    Except WorkflowError (Json × Record) :=
  (record.setLiteral name literal).map fun written =>
    (written.1, written.2.clearChanges)

/-! ## What does not depend on the writes so far -/

variable {record other : Record}

theorem toJson_clearChanges (record : Record) :
    record.clearChanges.toJson = record.toJson := rfl

@[simp] theorem clearChanges_clearChanges (record : Record) :
    record.clearChanges.clearChanges = record.clearChanges := rfl

theorem outcome_clearChanges (record : Record) (name literal : String) :
    record.clearChanges.outcome name literal = record.outcome name literal := by
  have hreadOnly :
      record.clearChanges.isReadOnly name = record.isReadOnly name := rfl
  have hexists : record.clearChanges.hasField name = record.hasField name := rfl
  have hkind : record.clearChanges.fieldKind name = record.fieldKind name := rfl
  unfold outcome setLiteral
  rw [hreadOnly, hexists, hkind]
  by_cases hlocked : record.isReadOnly name = true
  · simp only [if_pos hlocked]
    rfl
  by_cases hmissing : (!record.hasField name) = true
  · simp only [if_neg hlocked, if_pos hmissing]
    rfl
  simp only [if_neg hlocked, if_neg hmissing]
  cases Literal.convert ((record.fieldKind name).getD .string) literal <;> rfl

/-- The record after a write is the one that its outcome tells, or the same as
before. -/
theorem clearChanges_write (record : Record) (name literal : String) :
    (record.perform (.write name literal)).clearChanges =
      match record.outcome name literal with
      | .ok (_, after) => after
      | .error _ => record.clearChanges := by
  cases hset : record.setLiteral name literal with
  | error error => simp [perform, outcome, hset, Except.map]
  | ok written => simp [perform, outcome, hset, Except.map]

theorem perform_congr
    (h : record.clearChanges = other.clearChanges)
    (operation : RecordOperation) :
    (record.perform operation).clearChanges =
      (other.perform operation).clearChanges := by
  cases operation with
  | write name literal =>
      rw [clearChanges_write, clearChanges_write,
        ← outcome_clearChanges record, h, outcome_clearChanges]
  | merge fields =>
      exact congrArg (fun record : Record => record.mergeFields fields) h
  | setField name value =>
      exact congrArg (fun record : Record => record.withField name value) h
  | setSchema schema =>
      exact congrArg (fun record : Record => record.withSchema schema) h
  | clear => exact h

theorem performAll_congr
    (h : record.clearChanges = other.clearChanges)
    (operations : List RecordOperation) :
    (record.performAll operations).clearChanges =
      (other.performAll operations).clearChanges := by
  induction operations using List.reverseRecOn with
  | nil => exact h
  | append_singleton operations operation ih =>
      rw [performAll_snoc, performAll_snoc]
      exact perform_congr ih operation

/-- Two records have one snapshot exactly if they differ in nothing but what
counts as written. -/
theorem toJson_eq_iff :
    record.toJson = other.toJson ↔
      record.clearChanges = other.clearChanges := by
  constructor
  · intro h
    have hrestored := record.ofSnapshot_toJson
    rw [h, other.ofSnapshot_toJson] at hrestored
    exact (Except.ok.inj hrestored).symm
  · intro h
    rw [← toJson_clearChanges record, h, toJson_clearChanges]

/-! ## Restored records -/

/-- A restored record has the content of the other one, with nothing counting
as written; it is read alike, and writes to it come to the same, at once or
after other operations. -/
structure Restores (record restored : Record) : Prop where
  recordType : restored.recordType = record.recordType
  id : restored.id = record.id
  fields : restored.fields = record.fields
  schema : restored.schema = record.schema
  clean : restored.dirty = []
  get : ∀ path, restored.get path = record.get path
  text : ∀ path, restored.text path = record.text path
  hasField : ∀ name, restored.hasField name = record.hasField name
  isReadOnly : ∀ name, restored.isReadOnly name = record.isReadOnly name
  fieldKind : ∀ name, restored.fieldKind name = record.fieldKind name
  outcome : ∀ operations name literal,
    (restored.performAll operations).outcome name literal =
      (record.performAll operations).outcome name literal

theorem restores_clearChanges (record : Record) :
    record.Restores record.clearChanges where
  recordType := rfl
  id := rfl
  fields := rfl
  schema := rfl
  clean := rfl
  get _ := rfl
  text _ := rfl
  hasField _ := rfl
  isReadOnly _ := rfl
  fieldKind _ := rfl
  outcome operations name literal := by
    have hsame := performAll_congr record.clearChanges_clearChanges operations
    rw [← outcome_clearChanges, hsame, outcome_clearChanges]

/-- Every snapshot is read back as a record that restores the one it was taken
of, and the snapshots of two records are the same only if the records differ in
nothing but what counts as written. -/
theorem snapshots_lose_nothing (record : Record) :
    (∃ restored,
      ofSnapshot record.toJson = .ok restored ∧ record.Restores restored) ∧
    ∀ other : Record, other.toJson = record.toJson ↔
      other.clearChanges = record.clearChanges :=
  ⟨⟨record.clearChanges, record.ofSnapshot_toJson,
    record.restores_clearChanges⟩, fun _ => toJson_eq_iff⟩

end Record
end RecordRules
