import RecordRules.Proofs.StructureDecoding
import RecordRules.Record.Snapshot

/-!
# Snapshots keep records

The JSON form of a schema is read back as the schema it was made of, and the
snapshot of a record as the record, in which nothing counts as written any more.
-/

namespace RecordRules

open Json

theorem FieldKind.ofJson_toJson (kind : FieldKind) :
    ofJson kind.toJson = .ok kind := by
  cases kind with
  | enumeration variants =>
      have hvariants :
          decodeList decodeText (ofList .string variants) = .ok variants :=
        decodeList_ofList decodeText_string variants
      change
        (decodeList decodeText (ofList .string variants)).map enumeration = _
      rw [hvariants]
      rfl
  | _ => rfl

theorem FieldDescriptor.ofJson_toJson (field : FieldDescriptor) :
    ofJson field.toJson = .ok field := by
  have hkind := field.kind.ofJson_toJson
  have hread : shape.read field.toJson = .ok _ :=
    Shape.read_object
      (by simp only [Fields.Sorted, Fields.names, List.map]; decide)
      ⟨⟨_, rfl, rfl, refusal_of_ok hkind⟩, ⟨_, rfl, rfl, rfl⟩,
        ⟨_, rfl, rfl, rfl⟩⟩
  simp [ofJson, hread, need, orElse, Fields.get?, hkind]

theorem Schema.ofJson_toJson (schema : Schema) :
    ofJson schema.toJson = .ok schema := by
  have hfields :
      decodeList FieldDescriptor.ofJson
          (ofList FieldDescriptor.toJson schema.fields) = .ok schema.fields :=
    decodeList_ofList FieldDescriptor.ofJson_toJson schema.fields
  have hread : shape.read schema.toJson = .ok _ :=
    Shape.read_object
      (by simp only [Fields.Sorted, Fields.names, List.map]; decide)
      ⟨⟨_, rfl, rfl, refusal_of_ok hfields⟩, ⟨_, rfl, rfl, rfl⟩⟩
  simp [ofJson, hread, need, Fields.get?, hfields]

namespace Record

theorem ofJson_toJson (record : Record) :
    ofJson record.toJson = .ok record.clearChanges := by
  obtain ⟨recordType, id, fields, schema, dirty⟩ := record
  cases schema with
  | none => rfl
  | some schema =>
      have hschema :
          decodeOption Schema.ofJson schema.toJson = .ok (some schema) :=
        congrArg (Except.map some) schema.ofJson_toJson
      have hread :
          shape.read (toJson ⟨recordType, id, fields, some schema, dirty⟩) =
            .ok _ :=
        Shape.read_object
          (by
            simp only [Fields.Sorted, Fields.names, List.cons_append,
              List.nil_append, List.map]
            decide)
          ⟨⟨_, rfl, rfl, rfl⟩, ⟨_, rfl, rfl, rfl⟩, ⟨_, rfl, rfl, rfl⟩,
            ⟨_, rfl, rfl, refusal_of_ok hschema⟩⟩
      simp [ofJson, hread, need, orElse, Fields.get?, hschema, clearChanges]

/-- The snapshot of a record is read back as the record with nothing counting
as written. -/
theorem ofSnapshot_toJson (record : Record) :
    ofSnapshot record.toJson = .ok record.clearChanges := by
  rw [ofSnapshot, ofJson_toJson]

end Record

end RecordRules
