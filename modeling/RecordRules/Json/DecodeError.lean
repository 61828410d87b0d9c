import RecordRules.Json.Basic
import RecordRules.Text.Quoted
import RecordRules.Text.Split
import RecordRules.Time.Scan
import RecordRules.Uuid

/-!
# Errors in decoding

Why a JSON value is not the form of a domain value.  Each cause keeps what it is about; the
wording is in one place.
-/

namespace RecordRules
namespace Json

/-- What a value was found to be, where something else was expected. -/
inductive Found where
  | null
  | bool (value : Bool)
  | int (value : Int)
  | float (value : Number.Binary64)
  | string (value : String)
  | sequence
  | map
  deriving DecidableEq, Repr

def found : Json → Found
  | .null => .null
  | .bool b => .bool b
  | .int n => .int n
  | .float x => .float x
  | .string s => .string s
  | .array _ => .sequence
  | .object _ => .map

def Found.message : Found → String
  | .null => "null"
  | .bool b => "boolean `" ++ (if b then "true" else "false") ++ "`"
  | .int n => "integer `" ++ Number.intText n ++ "`"
  | .float x => "floating point `" ++ Number.floatText x ++ "`"
  | .string s => "string " ++ Text.diagnosticQuote s
  | .sequence => "sequence"
  | .map => "map"

/-- Why a value could not be decoded. -/
inductive DecodeError where
  | wrongType (found : Found) (expected : String)
  | wrongValue (found : Found) (expected : String)
  | wrongLength (length : Nat) (expected : String)
  | missingField (name : String)
  | duplicateField (name : String)
  | unknownVariant (variant : String) (known : List String)
  | badId (fault : Uuid.Fault)
  | badTime (fault : Time.TimeFault)
  deriving DecidableEq, Repr

def alternatives : List String → String
  | [] => "there are no variants"
  | [one] => "expected `" ++ one ++ "`"
  | [one, two] => "expected `" ++ one ++ "` or `" ++ two ++ "`"
  | many => "expected one of " ++ Text.join ", " (many.map fun name => "`" ++ name ++ "`")

def DecodeError.message : DecodeError → String
  | .wrongType found expected => "invalid type: " ++ found.message ++ ", expected " ++ expected
  | .wrongValue found expected => "invalid value: " ++ found.message ++ ", expected " ++ expected
  | .wrongLength length expected =>
    "invalid length " ++ Number.natText length ++ ", expected " ++ expected
  | .missingField name => "missing field `" ++ name ++ "`"
  | .duplicateField name => "duplicate field `" ++ name ++ "`"
  | .unknownVariant variant known =>
    "unknown variant `" ++ variant ++ "`, " ++ alternatives known
  | .badId fault => "UUID parsing failed: " ++ fault.message
  | .badTime fault => fault.message

end Json
end RecordRules
