import RecordRules.Json.Decode

/-!
# Field kinds and schemas

A schema declares the fields of a record type: their names, kinds, and which of them automation
may not write.
-/

namespace RecordRules

/-- The declared type of a field, by which literals are converted when it is written. -/
inductive FieldKind where
  | string
  | integer
  | decimal
  | boolean
  | timestamp
  | identifier
  | enumeration (variants : List String)
  deriving DecidableEq, Repr, Inhabited

namespace FieldKind

def tag : FieldKind → String
  | .string => "string"
  | .integer => "integer"
  | .decimal => "decimal"
  | .boolean => "boolean"
  | .timestamp => "timestamp"
  | .identifier => "identifier"
  | .enumeration _ => "enumeration"

/-- The tags with a kind each; an enumeration still lacks its variants. -/
def tags : List (String × FieldKind) :=
  [("string", .string), ("integer", .integer), ("decimal", .decimal), ("boolean", .boolean),
   ("timestamp", .timestamp), ("identifier", .identifier), ("enumeration", .enumeration [])]

def diagnosticName : FieldKind → String
  | .string => "String"
  | .integer => "Integer"
  | .decimal => "Decimal"
  | .boolean => "Boolean"
  | .timestamp => "Timestamp"
  | .identifier => "Identifier"
  | .enumeration _ => "Enumeration"

def toJson : FieldKind → Json
  | .enumeration variants =>
    .object [("type", .string "enumeration"), ("variants", Json.ofList .string variants)]
  | kind => .object [("type", .string kind.tag)]

/-- Completes a kind from the content that came with its tag. -/
def withContent (kind : FieldKind) (content : Json) : Except Json.DecodeError FieldKind :=
  match kind, content with
  | .enumeration _, content => (Json.decodeList Json.decodeText content).map .enumeration
  | kind, .null => .ok kind
  | kind, other => Json.mismatch ("unit variant FieldKind::" ++ kind.diagnosticName) other

/-- Completes a kind that came without content. -/
def withoutContent : FieldKind → Except Json.DecodeError FieldKind
  | .enumeration _ => .error (.missingField "variants")
  | kind => .ok kind

/-- What a value is expected to be that is no kind. -/
def expected : String := "adjacently tagged enum FieldKind"

def ofJson : Json → Except Json.DecodeError FieldKind
  | .object fields =>
    match Fields.get? "type" fields with
    | none => .error (.missingField "type")
    | some tag => do
      let kind ← Json.decodeVariant tags tag
      match Fields.get? "variants" fields with
      | some content => kind.withContent content
      | none => kind.withoutContent
  | .array [] => .error (.wrongLength 0 expected)
  | .array (tag :: rest) => do
    let kind ← Json.decodeVariant tags tag
    match rest with
    | [] => throw (.wrongLength 1 expected)
    | [content] => kind.withContent content
    | content :: _ => do
      let _ ← kind.withContent content
      throw (.wrongLength (rest.length + 1) "fewer elements in array")
  | json => Json.mismatch expected json

end FieldKind

/-- The declaration of one field. -/
structure FieldDescriptor where
  name : String
  kind : FieldKind
  readOnly : Bool
  deriving DecidableEq, Repr, Inhabited

namespace FieldDescriptor

def toJson (field : FieldDescriptor) : Json :=
  .object [("kind", field.kind.toJson), ("name", .string field.name),
    ("read_only", .bool field.readOnly)]

def shape : Json.Shape :=
  ⟨"FieldDescriptor",
   [Json.required "name" Json.decodeText, Json.required "kind" FieldKind.ofJson,
    Json.defaulted "read_only" Json.decodeBool]⟩

def ofJson (json : Json) : Except Json.DecodeError FieldDescriptor := do
  let fields ← shape.read json
  return {
    name := ← Json.need fields "name" Json.decodeText
    kind := ← Json.need fields "kind" FieldKind.ofJson
    readOnly := ← Json.orElse fields "read_only" false Json.decodeBool }

end FieldDescriptor

/-- The declared fields of one record type, in order. -/
structure Schema where
  recordType : String
  fields : List FieldDescriptor
  deriving DecidableEq, Repr, Inhabited

namespace Schema

/-- The declaration a name means: the one with that very name, else the first that has it up to
the case of ASCII letters. -/
def descriptor? (schema : Schema) (name : String) : Option FieldDescriptor :=
  match schema.fields.find? fun field => field.name == name with
  | some field => some field
  | none => schema.fields.find? fun field => Text.sameName field.name name

/-- The schema with one more field that may be written. -/
def field (schema : Schema) (name : String) (kind : FieldKind) : Schema :=
  { schema with fields := schema.fields ++ [⟨name, kind, false⟩] }

/-- The schema with one more field that may only be read. -/
def readOnlyField (schema : Schema) (name : String) (kind : FieldKind) : Schema :=
  { schema with fields := schema.fields ++ [⟨name, kind, true⟩] }

def toJson (schema : Schema) : Json :=
  .object [("fields", Json.ofList FieldDescriptor.toJson schema.fields),
    ("record_type", .string schema.recordType)]

def shape : Json.Shape :=
  ⟨"RecordSchema",
   [Json.required "record_type" Json.decodeText,
    Json.required "fields" (Json.decodeList FieldDescriptor.ofJson)]⟩

def ofJson (json : Json) : Except Json.DecodeError Schema := do
  let fields ← shape.read json
  return {
    recordType := ← Json.need fields "record_type" Json.decodeText
    fields := ← Json.need fields "fields" (Json.decodeList FieldDescriptor.ofJson) }

end Schema

end RecordRules
