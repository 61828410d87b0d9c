import RecordRules.Json.Basic
import RecordRules.Number.Decimal
import RecordRules.Record.Kind
import RecordRules.Text.Ascii
import RecordRules.Time.Timestamp

/-!
# Literals

A literal is a text given by an automation author.  It is converted to the kind of the field that
it is written to, in one canonical form for each kind.
-/

namespace RecordRules

/-- Why a literal is not of a kind. -/
inductive LiteralError where
  | notInteger (literal : String)
  | notDecimal (literal : String)
  | notBoolean (literal : String)
  | notTimestamp (literal : String)
  | emptyIdentifier
  | notVariant (literal : String) (variants : List String)
  deriving DecidableEq, Repr

def LiteralError.message : LiteralError → String
  | .notInteger literal => "'" ++ literal ++ "' is not a valid integer"
  | .notDecimal literal => "'" ++ literal ++ "' is not a valid decimal"
  | .notBoolean literal => "'" ++ literal ++ "' is not a valid boolean"
  | .notTimestamp literal => "'" ++ literal ++ "' is not a valid timestamp"
  | .emptyIdentifier => "identifier cannot be empty"
  | .notVariant literal variants =>
    "'" ++ literal ++ "' is not one of " ++ Text.join ", " variants

namespace Literal

/-- The truth value that a word names. -/
def readBool? (literal : String) : Option Bool :=
  let word := Text.asciiLower (Text.trim literal)
  if ["true", "yes", "1", "on"].contains word then some true
  else if ["false", "no", "0", "off"].contains word then some false
  else none

/-- An identifier without blanks at its ends; one that is universally unique is written in its
hyphenated form. -/
def readIdentifier? (literal : String) : Option String :=
  let trimmed := Text.trim literal
  if trimmed.isEmpty then none
  else match Uuid.read? trimmed with
    | some id => some id.text
    | none => some trimmed

/-- The variant that a literal names up to the case of ASCII letters; without variants, any. -/
def readVariant? (variants : List String) (literal : String) : Option String :=
  let trimmed := Text.trim literal
  if variants.isEmpty then some trimmed
  else variants.find? fun variant => Text.sameName variant trimmed

/-- A result, or the error that stands for none. -/
def orFail (error : LiteralError) : Option Json → Except LiteralError Json
  | some value => .ok value
  | none => .error error

def convert (kind : FieldKind) (literal : String) : Except LiteralError Json :=
  match kind with
  | .string => .ok (.string literal)
  | .integer => orFail (.notInteger literal) <|
      (Number.readInt64? (Text.trim literal)).map Json.int
  | .decimal => orFail (.notDecimal literal) <|
      (Number.Decimal.read? literal).map fun d => .float d.toBinary
  | .boolean => orFail (.notBoolean literal) <| (readBool? literal).map Json.bool
  | .timestamp => orFail (.notTimestamp literal) <|
      (Time.readTimestamp literal).map fun instant => .string instant.text
  | .identifier => orFail .emptyIdentifier <| (readIdentifier? literal).map Json.string
  | .enumeration variants => orFail (.notVariant literal variants) <|
      (readVariant? variants literal).map Json.string

end Literal

end RecordRules
