import RecordRules.Proofs.ActionOutcomes
import RecordRules.Proofs.FieldNames

/-!
# Writes and fields that may only be read

A write is refused when the name it is given means a declaration that may only
be read, but it is stored under the name that the record has.  Both agree up to
case, and so do the declarations that they mean.  A read-only field is written
exactly when the schema declares two fields whose names differ in case alone,
and the given name means the one that may be written.
-/

namespace RecordRules

/-- No two fields are declared under names that differ in case alone. -/
def Schema.TellsApart (schema : Schema) : Prop :=
  ∀ field ∈ schema.fields, ∀ other ∈ schema.fields,
    Text.sameName field.name other.name = true → field.name = other.name

namespace Record

variable {record after : Record} {name literal key : String} {value : Json}

theorem isReadOnly_eq_false_iff :
    record.isReadOnly name = false ↔
      Text.sameName name "id" = false ∧
        ∀ field, record.descriptor? name = some field →
          field.readOnly = false := by
  unfold isReadOnly
  cases record.descriptor? name <;> simp

theorem isReadOnly_of_setLiteral
    (h : record.setLiteral name literal = .ok (value, after)) :
    record.isReadOnly name = false := by
  unfold setLiteral at h
  split at h
  · simp at h
  · rename_i hopen
    simpa using hopen

theorem sameName_writeKey (record : Record) (name : String) :
    Text.sameName (record.writeKey name) name = true := by
  unfold writeKey
  split
  · rename_i key hkey
    exact (Fields.resolve?_eq_some hkey).2
  split
  · rename_i field hfield
    obtain ⟨schema, -, hmeant⟩ := Option.bind_eq_some_iff.mp hfield
    exact (Schema.descriptor?_eq_some hmeant).2
  · exact Text.sameName_self name

/-- The name means a field of the schema that may be written and the key one
that may not, although the two are declared under names that differ in case
alone. -/
def Confuses (record : Record) (name key : String) : Prop :=
  ∃ opened locked,
    record.descriptor? name = some opened ∧ opened.readOnly = false ∧
      record.descriptor? key = some locked ∧ locked.readOnly = true ∧
      opened.name ≠ locked.name ∧
      Text.sameName opened.name locked.name = true

/-- Names that agree up to case, of which one may be written and the other not,
mean two declarations. -/
theorem confuses_of_readOnly
    (hsame : Text.sameName key name = true)
    (hopen : record.isReadOnly name = false)
    (hlocked : record.isReadOnly key = true) :
    record.Confuses name key := by
  obtain ⟨hid, hopened⟩ := isReadOnly_eq_false_iff.mp hopen
  have hkeyId : Text.sameName key "id" = false := by
    rw [Text.sameName_congr hsame, hid]
  unfold isReadOnly at hlocked
  rw [hkeyId, Bool.false_or] at hlocked
  split at hlocked
  · rename_i locked hkey
    obtain ⟨schema, hschema, hmeant⟩ := Option.bind_eq_some_iff.mp hkey
    obtain ⟨hmem, hlockedSame⟩ := Schema.descriptor?_eq_some hmeant
    -- the declaration that the key means agrees with the given name as well
    obtain ⟨opened, hname⟩ :=
      Schema.exists_descriptor? hmem (Text.sameName_trans hlockedSame hsame)
    have hnameMeans : record.descriptor? name = some opened :=
      Option.bind_eq_some_iff.mpr ⟨schema, hschema, hname⟩
    have hopenedSame : Text.sameName opened.name locked.name = true := by
      have hopenedName := (Schema.descriptor?_eq_some hname).2
      rw [Text.sameName_comm] at hsame hlockedSame
      exact Text.sameName_trans hopenedName
        (Text.sameName_trans hsame hlockedSame)
    refine ⟨opened, locked, hnameMeans, hopened opened hnameMeans, hkey,
      hlocked, fun heq => ?_, hopenedSame⟩
    -- each is the first declaration of its own name
    have hfirst := Schema.find?_name_of_descriptor? hname
    rw [heq, Schema.find?_name_of_descriptor? hmeant] at hfirst
    obtain rfl := Option.some.inj hfirst
    rw [hopened locked hnameMeans] at hlocked
    cases hlocked
  · cases hlocked

theorem not_confuses_of_tellsApart
    (htells : ∀ schema, record.schema = some schema → schema.TellsApart) :
    ¬ record.Confuses name key := by
  rintro ⟨opened, locked, hname, -, hkey, -, hdiffer, hsame⟩
  obtain ⟨schema, hschema, hopened⟩ := Option.bind_eq_some_iff.mp hname
  have hlocked : schema.descriptor? key = some locked := by
    rwa [descriptor?, hschema] at hkey
  exact hdiffer (htells schema hschema
    opened (Schema.descriptor?_eq_some hopened).1
    locked (Schema.descriptor?_eq_some hlocked).1 hsame)

/-- A write that succeeds stores one value, under a name that agrees with the
given one up to case and is not that of the identifier.  That field may only be
read exactly when two declarations whose names differ in case alone are
confused; under a schema that has no such names it never is so. -/
theorem setLiteral_readOnly_iff
    (h : record.setLiteral name literal = .ok (value, after)) :
    after = record.store (record.writeKey name) value ∧
      Text.sameName (record.writeKey name) name = true ∧
      Text.sameName (record.writeKey name) "id" = false ∧
      (record.isReadOnly (record.writeKey name) = true ↔
        record.Confuses name (record.writeKey name)) ∧
      ((∀ schema, record.schema = some schema → schema.TellsApart) →
        record.isReadOnly (record.writeKey name) = false) := by
  have hopen := isReadOnly_of_setLiteral h
  have hsame := record.sameName_writeKey name
  have hconfuses :
      record.isReadOnly (record.writeKey name) = true ↔
        record.Confuses name (record.writeKey name) := by
    constructor
    · exact confuses_of_readOnly hsame hopen
    · rintro ⟨opened, locked, -, -, hkey, hlocked, -⟩
      simp [isReadOnly, hkey, hlocked]
  refine ⟨setLiteral_eq_ok h, hsame, ?_, hconfuses, fun htells => ?_⟩
  · rw [Text.sameName_congr hsame]
    exact (isReadOnly_eq_false_iff.mp hopen).1
  · rw [← Bool.not_eq_true, hconfuses]
    exact not_confuses_of_tellsApart htells

/-- A ticket whose number may only be read. -/
def numbered : Record :=
  { ofFields "Ticket" "t-1"
      [("Number", .int 7), ("Status", .string "Open")] with
    schema := some
      ((Schema.mk "Ticket" []).readOnlyField "Number" .integer |>.field
        "Status" .string) }

theorem tellsApart_numbered :
    ∀ schema, numbered.schema = some schema → schema.TellsApart := by
  intro schema hschema
  obtain rfl := Option.some.inj hschema
  unfold Schema.TellsApart
  decide +kernel

/-- Its status is closed under another spelling, and may be written there. -/
theorem setLiteral_readOnly_iff_closing :
    numbered.setLiteral "STATUS" "Closed" =
        .ok (.string "Closed",
          { numbered with
            fields := [("Number", .int 7), ("Status", .string "Closed")]
            dirty := ["Status"] }) ∧
      numbered.isReadOnly "Number" = true ∧
      numbered.writeKey "STATUS" = "Status" ∧
      Text.sameName "Status" "STATUS" = true ∧
      Text.sameName "Status" "id" = false ∧
      ¬ numbered.Confuses "STATUS" "Status" ∧
      numbered.isReadOnly "Status" = false := by
  have hclosing :
      numbered.setLiteral "STATUS" "Closed" =
        .ok (.string "Closed",
          { numbered with
            fields := [("Number", .int 7), ("Status", .string "Closed")]
            dirty := ["Status"] }) :=
    rfl
  obtain ⟨-, hsame, hid, hconfuses, htold⟩ := setLiteral_readOnly_iff hclosing
  have hopen := htold tellsApart_numbered
  refine ⟨hclosing, rfl, rfl, hsame, hid, fun hconfused => ?_, hopen⟩
  have hclosed := hconfuses.mpr hconfused
  rw [hopen] at hclosed
  cases hclosed

/-- A ticket with a status in the record that may only be read, beside which
the schema declares another spelling that may be written. -/
def spelledTwice : Record :=
  { ofFields "Ticket" "t-1" [("status", .string "Open")] with
    schema := some
      ((Schema.mk "Ticket" []).field "Status" .string |>.readOnlyField "status"
        .string) }

/-- A read-only field is written through the other spelling of its name. -/
theorem readOnly_status_closed :
    spelledTwice.isReadOnly "status" = true ∧
      (spelledTwice.descriptor? "status").map FieldDescriptor.readOnly =
        some true ∧
      spelledTwice.setLiteral "Status" "Closed" =
        .ok (.string "Closed",
          { spelledTwice with
            fields := [("status", .string "Closed")]
            dirty := ["status"] }) :=
  ⟨rfl, rfl, rfl⟩

end Record

end RecordRules
