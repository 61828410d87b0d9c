import RecordRules.Json.DecodeError
import RecordRules.Number.Power
import RecordRules.Time.Timestamp

/-!
# Decoding values

Decoders of the simple types, and the reading of a structure from an object or from an array of
its fields in order.  An object's fields are looked at in the order of their names, and the first
that is wrong is reported; unknown fields count for nothing.
-/

namespace RecordRules

namespace Json

abbrev Decoded (α : Type) := Except DecodeError α

/-- The value is of another type than the expected one. -/
def mismatch (expected : String) (json : Json) : Except DecodeError α :=
  .error (.wrongType json.found expected)

def decodeText : Json → Except DecodeError String
  | .string s => .ok s
  | json => mismatch "a string" json

def decodeBool : Json → Except DecodeError Bool
  | .bool b => .ok b
  | json => mismatch "a boolean" json

/-- An integer that lies in a range of its own name. -/
def decodeInt (name : String) (low high : Int) : Json → Except DecodeError Int
  | .int n => if low ≤ n ∧ n ≤ high then .ok n else .error (.wrongValue (.int n) name)
  | json => mismatch name json

def decodeInt32 : Json → Except DecodeError Int :=
  decodeInt "i32" (-(Number.twos 31 : Int)) (Number.twos 31 - 1)

def decodeInt64 : Json → Except DecodeError Int :=
  decodeInt "i64" (-(Number.twos 63 : Int)) (Number.twos 63 - 1)

def decodeNat32 (json : Json) : Except DecodeError Nat :=
  (decodeInt "u32" 0 (Number.twos 32 - 1) json).map Int.toNat

def decodeNat64 (json : Json) : Except DecodeError Nat :=
  (decodeInt "u64" 0 (Number.twos 64 - 1) json).map Int.toNat

def decodeId : Json → Except DecodeError Uuid
  | .string s =>
    match Uuid.read? s with
    | some id => .ok id
    | none => .error (.badId (Uuid.diagnose s))
  | json => mismatch "a formatted UUID string" json

def decodeInstant : Json → Except DecodeError Time.Instant
  | .string s =>
    match Time.readStored s with
    | .ok instant => .ok instant
    | .error fault => .error (.badTime fault)
  | json => mismatch "an RFC 3339 formatted date and time string" json

def decodeOption (decode : Json → Except DecodeError α) : Json → Except DecodeError (Option α)
  | .null => .ok none
  | json => (decode json).map some

/-- A sequence of values, decoded in order. -/
def decodeList (decode : Json → Except DecodeError α) : Json → Except DecodeError (List α)
  | .array items => items.mapM decode
  | json => mismatch "a sequence" json

def decodeFields : Json → Except DecodeError Fields
  | .object fields => .ok fields
  | json => mismatch "a map" json

def decodeTextMap (json : Json) : Except DecodeError (List (String × String)) := do
  (← decodeFields json).mapM fun (name, value) => return (name, ← decodeText value)

def decodeAny (json : Json) : Except DecodeError Json := .ok json

/-- One of a list of named alternatives; the name may also be the only field of an object. -/
def decodeVariant (known : List (String × α)) (json : Json) : Except DecodeError α :=
  let choose (name : String) : Except DecodeError α :=
    match known.find? fun entry => entry.1 == name with
    | some (_, value) => .ok value
    | none => .error (.unknownVariant name (known.map Prod.fst))
  match json with
  | .string name => choose name
  | .object [(name, content)] => do
    let value ← choose name
    match content with
    | .null => return value
    | other => mismatch "unit" other
  | .object _ => .error (.wrongValue .map "map with a single key")
  | other => mismatch "string or map" other

/-- The wrongness of a value for a decoder, if any. -/
def refusal (decode : Json → Except DecodeError α) (json : Json) : Option DecodeError :=
  match decode json with
  | .ok _ => none
  | .error error => some error

/-- A field of a structure: its names, what its value must be, and whether an array of the fields
may end before it. -/
structure Slot where
  name : String
  aliases : List String
  refuse : Json → Option DecodeError
  mayEnd : Bool

def required (name : String) (decode : Json → Except DecodeError α) : Slot :=
  ⟨name, [], refusal decode, false⟩

/-- A field with a value to fall back on. -/
def defaulted (name : String) (decode : Json → Except DecodeError α) : Slot :=
  ⟨name, [], refusal decode, true⟩

/-- The field under further names as well. -/
def Slot.orNamed (slot : Slot) (aliases : List String) : Slot := { slot with aliases }

def Slot.answersTo (slot : Slot) (name : String) : Bool :=
  slot.name == name || slot.aliases.contains name

/-- A structure: its name in diagnostics and its fields in order. -/
structure Shape where
  name : String
  slots : List Slot

namespace Shape

/-- What an array is expected to be when it is too short. -/
def sequenceText (shape : Shape) : String :=
  "struct " ++ shape.name ++ " with " ++ Number.natText shape.slots.length
    ++ (if shape.slots.length = 1 then " element" else " elements")

/-- Picks the known fields out of an object, under their own names. -/
def collect (slots : List Slot) (picked : Fields) : Fields → Except DecodeError Fields
  | [] => .ok picked
  | (name, value) :: rest =>
    match slots.find? fun slot => slot.answersTo name with
    | none => collect slots picked rest
    | some slot =>
      if (Fields.get? slot.name picked).isSome then .error (.duplicateField slot.name)
      else match slot.refuse value with
        | some error => .error error
        | none => collect slots (Fields.insert slot.name value picked) rest

/-- Pairs the fields with the items of an array. -/
def align (shape : Shape) (total index : Nat) (picked : Fields) :
    List Slot → List Json → Except DecodeError Fields
  | [], [] => .ok picked
  | [], _ :: _ => .error (.wrongLength total "fewer elements in array")
  | slot :: slots, [] =>
    if slot.mayEnd then shape.align total (index + 1) picked slots []
    else .error (.wrongLength index shape.sequenceText)
  | slot :: slots, value :: rest =>
    match slot.refuse value with
    | some error => .error error
    | none => shape.align total (index + 1) (Fields.insert slot.name value picked) slots rest

/-- The fields of a structure given as an object or as an array, under their own names. -/
def read (shape : Shape) : Json → Except DecodeError Fields
  | .object fields => collect shape.slots [] fields
  | .array items => shape.align items.length 0 [] shape.slots items
  | json => mismatch ("struct " ++ shape.name) json

end Shape

/-- The decoded value of a picked field, which must be there. -/
def need (fields : Fields) (name : String) (decode : Json → Except DecodeError α) :
    Except DecodeError α :=
  match Fields.get? name fields with
  | some value => decode value
  | none => .error (.missingField name)

/-- The decoded value of a picked field, or another one when it is missing. -/
def orElse (fields : Fields) (name : String) (fallback : α)
    (decode : Json → Except DecodeError α) : Except DecodeError α :=
  match Fields.get? name fields with
  | some value => decode value
  | none => .ok fallback

end Json

def Uuid.toJson (id : Uuid) : Json := .string id.text

def Time.Instant.toJson (instant : Time.Instant) : Json := .string instant.zuluText

end RecordRules
