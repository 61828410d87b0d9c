import RecordRules.Error
import RecordRules.Record.Basic

/-!
# Snapshots

The JSON form of a record.  A snapshot keeps type, identifier, fields and schema; what was
written is forgotten.
-/

namespace RecordRules
namespace Record

def toJson (record : Record) : Json :=
  let tail := match record.schema with
    | some schema => [("schema", schema.toJson)]
    | none => []
  .object ([("fields", .object record.fields), ("id", .string record.id),
    ("record_type", .string record.recordType)] ++ tail)

def shape : Json.Shape :=
  ⟨"Record",
   [Json.required "record_type" Json.decodeText, Json.required "id" Json.decodeText,
    Json.defaulted "fields" Json.decodeFields,
    Json.defaulted "schema" (Json.decodeOption Schema.ofJson)]⟩

def ofJson (json : Json) : Except Json.DecodeError Record := do
  let fields ← shape.read json
  return {
    recordType := ← Json.need fields "record_type" Json.decodeText
    id := ← Json.need fields "id" Json.decodeText
    fields := ← Json.orElse fields "fields" [] Json.decodeFields
    schema := ← Json.orElse fields "schema" none (Json.decodeOption Schema.ofJson)
    dirty := [] }

/-- The record of a snapshot, as an operation of automation. -/
def ofSnapshot (json : Json) : Except WorkflowError Record :=
  match ofJson json with
  | .ok record => .ok record
  | .error error => .error (.ofDecode error)

end Record
end RecordRules
