import RecordRules.Json.Printer
import RecordRules.Record.Kind

/-!
# Records

A business record of any type: an opaque identifier, JSON fields, perhaps a schema, and the names
of the fields that automation has written since the record was loaded.  Fields are read by dotted
paths whose segments may differ from the stored names in the case of ASCII letters.
-/

namespace RecordRules

/-- A record; `dirty` lists, in order, the names of fields written since it was loaded. -/
structure Record where
  recordType : String
  id : String
  fields : Fields
  schema : Option Schema
  dirty : List String
  deriving Repr, Inhabited

namespace Fields

/-- The stored name that a name means: itself, else the first that has it up to the case of
ASCII letters. -/
def resolve? (name : String) (fields : Fields) : Option String :=
  if (fields.get? name).isSome then some name
  else fields.names.find? fun key => Text.sameName key name

def lookup? (name : String) (fields : Fields) : Option Json :=
  (resolve? name fields).bind fun key => fields.get? key

end Fields

def insertName (name : String) : List String → List String
  | [] => [name]
  | other :: rest =>
    if name = other then other :: rest
    else if name < other then name :: other :: rest
    else other :: insertName name rest

namespace Record

/-- A record without schema that has not been written to. -/
def ofFields (recordType id : String) (fields : Fields) : Record :=
  ⟨recordType, id, fields, none, []⟩

/-- A record of a JSON object; any other value gives a record without fields. -/
def ofValue (recordType id : String) : Json → Record
  | .object fields => ofFields recordType id fields
  | _ => ofFields recordType id []

def withSchema (record : Record) (schema : Schema) : Record :=
  { record with schema := some schema }

/-- Stores a value without counting it as written. -/
def withField (record : Record) (name : String) (value : Json) : Record :=
  { record with fields := record.fields.insert name value }

/-- Overwrites stored values, as a store does with an update; nothing counts as written. -/
def mergeFields (record : Record) (fields : Fields) : Record :=
  { record with fields := record.fields.insertAll fields }

/-- Follows the segments of a path into a value; a scalar has no parts. -/
def follow : Json → List String → Option Json
  | value, [] => some value
  | .object fields, segment :: rest =>
    (Fields.lookup? (Text.trim segment) fields).bind fun value => follow value rest
  | _, _ :: _ => none

def present : Json → Option Json
  | .null => none
  | value => some value

/-- The value at a dotted path.  A missing part and null both read as absent; a first segment
that names no field may name the record's identifier. -/
def get (record : Record) (path : String) : Option Json :=
  match Text.splitAt '.' path with
  | [] => none
  | first :: rest =>
    let first := Text.trim first
    match record.fields.lookup? first with
    | some value => (follow value rest).bind present
    | none => if Text.sameName first "id" then some (.string record.id) else none

def text (record : Record) (path : String) : Option String :=
  (record.get path).bind Json.text?

def descriptor? (record : Record) (name : String) : Option FieldDescriptor :=
  record.schema.bind fun schema => schema.descriptor? name

def hasField (record : Record) (name : String) : Bool :=
  (record.descriptor? name).isSome || (record.fields.resolve? name).isSome

/-- May the field only be read?  The identifier always is so. -/
def isReadOnly (record : Record) (name : String) : Bool :=
  Text.sameName name "id"
    || match record.descriptor? name with
      | some descriptor => descriptor.readOnly
      | none => false

def inferredKind : Json → FieldKind
  | .bool _ => .boolean
  | .int _ => .integer
  | .float _ => .decimal
  | _ => .string

/-- The declared kind of a field, or the kind its value suggests. -/
def fieldKind (record : Record) (name : String) : Option FieldKind :=
  match record.descriptor? name with
  | some descriptor => some descriptor.kind
  | none => (record.fields.lookup? name).map inferredKind

/-- The written fields with their present values. -/
def changes (record : Record) : Fields :=
  record.dirty.filterMap fun name => (record.fields.get? name).map fun value => (name, value)

/-- Has any field been written? -/
def isDirty (record : Record) : Bool := !record.dirty.isEmpty

/-- The record with nothing counting as written. -/
def clearChanges (record : Record) : Record := { record with dirty := [] }

/-- The names among the given ones whose text differs from the earlier version's. -/
def changedFields (record prior : Record) (names : List String) : List String :=
  names.filter fun name => record.text name != prior.text name

end Record

end RecordRules
