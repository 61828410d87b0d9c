import RecordRules.Json.Printer
import RecordRules.Json.Decode
import RecordRules.Json.Reader

/-!
# Conditions

A condition compares a field with a literal by an operator.  Stored lists of conditions are read
leniently: a list that cannot be read counts as empty, and an empty list always matches.
-/

namespace RecordRules

/-- The comparison that a condition makes. -/
inductive Operator where
  | equals
  | notEquals
  | contains
  | notContains
  | startsWith
  | endsWith
  | greaterThan
  | greaterThanOrEqual
  | lessThan
  | lessThanOrEqual
  | isNull
  | isNotNull
  | isIn
  | notIn
  | between
  | changed
  | changedTo
  | changedFrom
  /-- Any operator outside the catalogue; it never holds. -/
  | unknown
  deriving DecidableEq, Repr, Inhabited

namespace Operator

def name : Operator → String
  | .equals => "Equals"
  | .notEquals => "NotEquals"
  | .contains => "Contains"
  | .notContains => "NotContains"
  | .startsWith => "StartsWith"
  | .endsWith => "EndsWith"
  | .greaterThan => "GreaterThan"
  | .greaterThanOrEqual => "GreaterThanOrEqual"
  | .lessThan => "LessThan"
  | .lessThanOrEqual => "LessThanOrEqual"
  | .isNull => "IsNull"
  | .isNotNull => "IsNotNull"
  | .isIn => "In"
  | .notIn => "NotIn"
  | .between => "Between"
  | .changed => "Changed"
  | .changedTo => "ChangedTo"
  | .changedFrom => "ChangedFrom"
  | .unknown => "Unknown"

/-- The spellings of the operators, in lower case without blanks and underscores. -/
def spellings : List (String × Operator) :=
  [("equals", .equals), ("eq", .equals), ("==", .equals),
   ("notequals", .notEquals), ("ne", .notEquals), ("!=", .notEquals),
   ("contains", .contains), ("notcontains", .notContains),
   ("startswith", .startsWith), ("endswith", .endsWith),
   ("greaterthan", .greaterThan), ("gt", .greaterThan), (">", .greaterThan),
   ("greaterthanorequal", .greaterThanOrEqual), ("greaterthanorequals", .greaterThanOrEqual),
   ("gte", .greaterThanOrEqual), (">=", .greaterThanOrEqual),
   ("lessthan", .lessThan), ("lt", .lessThan), ("<", .lessThan),
   ("lessthanorequal", .lessThanOrEqual), ("lessthanorequals", .lessThanOrEqual),
   ("lte", .lessThanOrEqual), ("<=", .lessThanOrEqual),
   ("isnull", .isNull), ("isnotnull", .isNotNull),
   ("in", .isIn), ("notin", .notIn), ("between", .between),
   ("changed", .changed), ("changedto", .changedTo), ("changedfrom", .changedFrom)]

/-- A spelling without blanks at its ends, spaces and underscores, in lower case. -/
def normalize (raw : String) : String :=
  Text.asciiLower (Text.without (fun c => c == '_' || c == ' ') (Text.trim raw))

/-- The operator a text means; unknown texts mean the unknown operator. -/
def ofText (raw : String) : Operator :=
  match spellings.find? fun entry => entry.1 == normalize raw with
  | some (_, operator) => operator
  | none => .unknown

/-- Does the operator compare with an earlier version of the record? -/
def needsPrior : Operator → Bool
  | .changed => true
  | .changedTo => true
  | .changedFrom => true
  | _ => false

def ofJson (json : Json) : Except Json.DecodeError Operator :=
  (Json.decodeText json).map ofText

end Operator

/-- How a rule combines its conditions. -/
inductive LogicMode where
  | all
  | any
  deriving DecidableEq, Repr, Inhabited

namespace LogicMode

def name : LogicMode → String
  | .all => "All"
  | .any => "Any"

/-- The names under which the modes are stored. -/
def variants : List (String × LogicMode) :=
  [("AND", .all), ("All", .all), ("all", .all), ("and", .all),
   ("Any", .any), ("OR", .any), ("any", .any), ("or", .any)]

def toJson (mode : LogicMode) : Json := .string mode.name

def ofJson : Json → Except Json.DecodeError LogicMode := Json.decodeVariant variants

end LogicMode

/-- A comparison of a field with a literal. -/
structure Condition where
  field : String
  operator : Operator
  value : Option String
  deriving DecidableEq, Repr, Inhabited

namespace Condition

def equals (field value : String) : Condition := ⟨field, .equals, some value⟩

def notEquals (field value : String) : Condition := ⟨field, .notEquals, some value⟩

def contains (field value : String) : Condition := ⟨field, .contains, some value⟩

def greaterThan (field value : String) : Condition := ⟨field, .greaterThan, some value⟩

def lessThan (field value : String) : Condition := ⟨field, .lessThan, some value⟩

def isNull (field : String) : Condition := ⟨field, .isNull, none⟩

def isNotNull (field : String) : Condition := ⟨field, .isNotNull, none⟩

def inList (field : String) (values : List String) : Condition :=
  ⟨field, .isIn, some (Text.join "," values)⟩

/-- The field lies between two bounds. -/
def between (field low high : String) : Condition :=
  ⟨field, .between, some (low ++ "," ++ high)⟩

def changed (field : String) : Condition := ⟨field, .changed, none⟩

def changedTo (field value : String) : Condition := ⟨field, .changedTo, some value⟩

def changedFrom (field value : String) : Condition := ⟨field, .changedFrom, some value⟩

def toJson (condition : Condition) : Json :=
  .object [("field", .string condition.field), ("operator", .string condition.operator.name),
    ("value", Json.ofText? condition.value)]

/-- The literal of a stored value; the items of a list are joined by commas. -/
def literal : Json → Option String
  | .array items => some (Text.join "," (items.filterMap Json.text?))
  | value => value.text?

def shape : Json.Shape :=
  ⟨"Condition",
   [(Json.required "field" Json.decodeText).orNamed ["Field"],
    (Json.required "operator" Operator.ofJson).orNamed ["Operator"],
    (Json.defaulted "value" Json.decodeAny).orNamed ["Value"]]⟩

def ofJson (json : Json) : Except Json.DecodeError Condition := do
  let fields ← shape.read json
  return {
    field := ← Json.need fields "field" Json.decodeText
    operator := ← Json.need fields "operator" Operator.ofJson
    value := literal (← Json.orElse fields "value" .null Json.decodeAny) }

/-- The conditions of a list of JSON values; empty when any of them is no condition. -/
def listOfValue (raw : Json) : List Condition :=
  match Json.decodeList ofJson raw with
  | .ok conditions => conditions
  | .error _ => []

/-- The conditions of a stored list.  A text may hold the JSON of a list, but not of a text. -/
def listOfStored (raw : Json) : List Condition :=
  match raw with
  | .string s =>
    match Json.parse s with
    | .ok (.string _) => []
    | .ok inner => listOfValue inner
    | .error _ => []
  | raw => listOfValue raw

end Condition

end RecordRules
