import Mathlib.Logic.Basic
import RecordRules.Proofs.SessionSteps

/-!
# Detection of changes

A field has changed when its text in the record is another one than in the
earlier version.  The monitoring of fields and the conditions that detect
changes agree on this, and so on which updates set off a workflow; seen from the
earlier version, the same fields have changed the other way.
-/

namespace RecordRules

namespace Condition

variable {field : String} {record earlier : Record} {prior : Option Record}

theorem hasChanged_iff :
    hasChanged field record (some earlier) = true ↔
      record.text field ≠ earlier.text field := by
  rw [hasChanged, bne_iff_ne, ne_comm]

theorem hasChanged_swap (field : String) (record earlier : Record) :
    hasChanged field record (some earlier) =
      hasChanged field earlier (some record) := by
  rw [Bool.eq_iff_iff, hasChanged_iff, hasChanged_iff, ne_comm]

theorem listHolds_changed_any
    {fields : List String} (hfields : fields ≠ []) (record : Record)
    (prior : Option Record) :
    listHolds (fields.map changed) .any record prior =
      fields.any fun field => hasChanged field record prior := by
  have hsome : (fields.map changed).isEmpty = false := by
    simpa using hfields
  rw [listHolds, hsome, Bool.false_or, List.any_map]
  rfl

/-- How the conditions on changes hang together, for all fields and literals. -/
structure ChangesAgree (record : Record) (prior : Option Record) : Prop where
  changedTo : ∀ field literal,
    holds ⟨field, .changedTo, literal⟩ record prior = true ↔
      (changed field).holds record prior = true ∧ literal.isSome = true ∧
        holds ⟨field, .equals, literal⟩ record prior = true
  changedFrom : ∀ earlier, prior = some earlier → ∀ field literal,
    holds ⟨field, .changedFrom, literal⟩ record (some earlier) =
      holds ⟨field, .changedTo, literal⟩ earlier (some record)
  changed : ∀ earlier, prior = some earlier → ∀ field,
    ((changed field).holds record (some earlier) = true ↔
      record.text field ≠ earlier.text field) ∧
    (changed field).holds record (some earlier) =
      (changed field).holds earlier (some record)
  withoutPrior : prior = none → ∀ field literal,
    holds ⟨field, .changed, literal⟩ record none = false ∧
      holds ⟨field, .changedTo, literal⟩ record none = false ∧
      holds ⟨field, .changedFrom, literal⟩ record none = false

theorem changesAgree (record : Record) (prior : Option Record) :
    ChangesAgree record prior where
  changedTo field literal := by
    simp only [holds, changed, Bool.and_eq_true, and_assoc]
  changedFrom := by
    rintro earlier rfl field literal
    simp only [holds, hasChanged_swap field record earlier, Option.bind_some]
  changed := by
    rintro earlier rfl field
    exact ⟨hasChanged_iff, hasChanged_swap field record earlier⟩
  withoutPrior := by
    rintro rfl field literal
    exact ⟨rfl, rfl, rfl⟩

end Condition

open Condition (hasChanged)

theorem Record.changedFields_ne_nil_iff
    (record earlier : Record) (fields : List String) :
    record.changedFields earlier fields ≠ [] ↔
      (fields.any fun field => hasChanged field record (some earlier)) =
        true := by
  rw [changedFields, ne_eq, List.filter_eq_nil_iff, List.any_eq_true]
  simp only [bne_iff_ne, Condition.hasChanged_iff, not_forall, not_not,
    exists_prop]

namespace Engine

variable {workflow : Workflow}

/-- An update sets off a workflow with monitored fields if there is an earlier
version and one of the fields has changed since. -/
theorem isTriggeredBy_onUpdate_iff
    (hfields : workflow.triggerFields ≠ []) (record : Record)
    (prior : Option Record) :
    isTriggeredBy workflow .onUpdate record prior = true ↔
      prior.isSome = true ∧
        Condition.listHolds (workflow.triggerFields.map Condition.changed) .any
          record prior = true := by
  unfold isTriggeredBy
  rw [if_pos ⟨rfl, hfields⟩, Condition.listHolds_changed_any hfields]
  cases prior with
  | none => simp
  | some earlier =>
      rw [← Record.changedFields_ne_nil_iff]
      simp

/-- Whether an update gets past the monitoring of fields is what the conditions
that one of the fields has changed say of it, and the conditions on changes
agree with each other. -/
theorem changes_detected_alike (record : Record) (prior : Option Record) :
    (∀ workflow : Workflow, workflow.triggerFields ≠ [] →
      (isTriggeredBy workflow .onUpdate record prior = true ↔
        prior.isSome = true ∧
          Condition.listHolds (workflow.triggerFields.map Condition.changed)
            .any record prior = true) ∧
      ∀ context session, session.record = record →
        runWorkflow workflow .onUpdate prior context session =
          if prior.isSome = true ∧
              Condition.listHolds
                (workflow.triggerFields.map Condition.changed) .any record
                prior = true then
            weighRules workflow prior context (takenUp workflow session)
          else passOver workflow (takenUp workflow session)) ∧
    Condition.ChangesAgree record prior := by
  refine ⟨fun workflow hfields => ⟨?_, ?_⟩, Condition.changesAgree record prior⟩
  · exact isTriggeredBy_onUpdate_iff hfields record prior
  · rintro context session rfl
    rw [runWorkflow_apply]
    simp only [← isTriggeredBy_onUpdate_iff hfields]
    split <;> rfl

/-- A workflow that watches over the owner and the name of the stage. -/
def stageWatch : Workflow :=
  { Workflow.ofName .nil "Stage watch" "Lead" .onUpdate with
    triggerFields := ["owner", "Stage.Name"] }

def leadAt (stage : String) : Record :=
  .ofFields "Lead" "L-1" [("Stage", .object [("Name", .string stage)])]

/-- A lead that is won sets off the workflow: its stage has changed, from the
one it had and to the one it has. -/
theorem changes_detected_alike_stageWatch :
    stageWatch.triggerFields ≠ [] ∧
      runWorkflow stageWatch .onUpdate (some (leadAt "Lost")) .detached
          (.begin (.ofWorkflows [stageWatch] ⟨0, 0⟩) (leadAt "Won")) =
        weighRules stageWatch (some (leadAt "Lost")) .detached
          (takenUp stageWatch
            (.begin (.ofWorkflows [stageWatch] ⟨0, 0⟩) (leadAt "Won"))) ∧
      Condition.holds ⟨"stage.name", .changedTo, some "won"⟩
        (leadAt "Won") (some (leadAt "Lost")) = true ∧
      Condition.holds ⟨"stage.name", .changedFrom, some "lost"⟩
        (leadAt "Won") (some (leadAt "Lost")) = true := by
  have hfields : stageWatch.triggerFields ≠ [] := by decide
  obtain ⟨hruns, hagree⟩ :=
    changes_detected_alike (leadAt "Won") (some (leadAt "Lost"))
  refine ⟨hfields, ?_, ?_, ?_⟩
  · rw [(hruns stageWatch hfields).2 _ _ rfl]
    exact if_pos (by decide +kernel)
  · rw [hagree.changedTo]
    decide +kernel
  · rw [hagree.changedFrom _ rfl]
    decide +kernel

end Engine

end RecordRules
