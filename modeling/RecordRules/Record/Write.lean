import RecordRules.Error
import RecordRules.Record.Basic
import RecordRules.Record.Literal

/-!
# Writing to records

A literal is written to a field that may be written and that exists, converted to the field's
kind.  The write is counted under the name that the field has in the record.
-/

namespace RecordRules
namespace Record

/-- The name under which a write to a field is stored: the stored name, else the declared one. -/
def writeKey (record : Record) (name : String) : String :=
  match record.fields.resolve? name with
  | some key => key
  | none =>
    match record.descriptor? name with
    | some descriptor => descriptor.name
    | none => name

/-- Stores a value and counts the field as written. -/
def store (record : Record) (key : String) (value : Json) : Record :=
  { record with
    fields := record.fields.insert key value
    dirty := insertName key record.dirty }

/-- Writes a literal to a field; gives the stored value and the record after the write. -/
def setLiteral (record : Record) (name literal : String) :
    Except WorkflowError (Json × Record) :=
  if record.isReadOnly name then
    .error (.configuration ("field '" ++ name ++ "' on " ++ record.recordType ++ " is read-only"))
  else if !record.hasField name then
    .error (.resolution ("field '" ++ name ++ "' does not exist on " ++ record.recordType))
  else
    match Literal.convert ((record.fieldKind name).getD .string) literal with
    | .error error =>
      .error (.configuration ("cannot set '" ++ name ++ "': " ++ error.message))
    | .ok value => .ok (value, record.store (record.writeKey name) value)

end Record
end RecordRules
