import RecordRules.Condition.Basic
import RecordRules.Number.Decimal
import RecordRules.Record.Basic
import RecordRules.Text.Lowercase
import RecordRules.Time.Timestamp

/-!
# Evaluation of conditions

Whether conditions hold of a record and, for the detection of changes, of its earlier version.
Texts are compared in lower case; order is that of decimals, else that of timestamps.
-/

namespace RecordRules
namespace Condition

/-- Equality up to case; an absent side equals an empty one. -/
def textEquals : Option String → Option String → Bool
  | some a, some b => Text.lowercase a == Text.lowercase b
  | none, some b => b.isEmpty
  | some a, none => a.isEmpty
  | none, none => true

/-- A test of two texts in lower case, false when one is absent. -/
def textTest (test : List Char → List Char → Bool) : Option String → Option String → Bool
  | some a, some b => test (Text.lowerChars a.toList) (Text.lowerChars b.toList)
  | _, _ => false

/-- The order of two texts that both are decimals, or that both are timestamps. -/
def compareTexts (a b : String) : Option Ordering :=
  match Number.Decimal.read? a, Number.Decimal.read? b with
  | some x, some y => some (x.compare y)
  | _, _ =>
    match Time.readTimestamp a, Time.readTimestamp b with
    | some x, some y => some (x.compare y)
    | _, _ => none

/-- The order of a field and a literal, when both are present and comparable. -/
def compare (actual literal : Option String) : Option Ordering :=
  match actual, literal with
  | some a, some b => compareTexts a b
  | _, _ => none

/-- Is the value one of the comma-separated items, up to case and blanks at the ends? -/
def listContains (list value : String) : Bool :=
  let canonical (s : String) : String := Text.lowercase (Text.trim s)
  (Text.splitAt ',' list).any fun item => canonical item == canonical value

/-- Do the text and both bounds of the literal denote decimals in order? -/
def isBetween (actual literal : Option String) : Bool :=
  let inBounds : Option Bool := do
    let (low, high) ← Text.cut ',' (← literal)
    let value ← Number.Decimal.read? (← actual)
    let low ← Number.Decimal.read? low
    let high ← Number.Decimal.read? high
    return value.compare low != .lt && value.compare high != .gt
  inBounds.getD false

/-- Is the text of the field another one in the earlier version? -/
def hasChanged (field : String) (record : Record) (prior : Option Record) : Bool :=
  match prior with
  | some prior => prior.text field != record.text field
  | none => false

def holds (condition : Condition) (record : Record) (prior : Option Record) : Bool :=
  let actual := record.text condition.field
  let literal := condition.value
  match condition.operator with
  | .equals => textEquals actual literal
  | .notEquals => !textEquals actual literal
  | .contains => textTest Text.contains actual literal
  | .notContains => textTest (fun a l => !Text.contains a l) actual literal
  | .startsWith => textTest Text.startsWith actual literal
  | .endsWith => textTest Text.endsWith actual literal
  | .greaterThan => compare actual literal == some .gt
  | .greaterThanOrEqual =>
    compare actual literal == some .gt || compare actual literal == some .eq
  | .lessThan => compare actual literal == some .lt
  | .lessThanOrEqual =>
    compare actual literal == some .lt || compare actual literal == some .eq
  | .isNull => actual.isNone
  | .isNotNull => actual.isSome
  | .isIn =>
    match actual, literal with
    | some a, some l => listContains l a
    | _, _ => false
  | .notIn =>
    match actual, literal with
    | some a, some l => !listContains l a
    | _, _ => true
  | .between => isBetween actual literal
  | .changed => hasChanged condition.field record prior
  | .changedTo =>
    hasChanged condition.field record prior && literal.isSome && textEquals actual literal
  | .changedFrom =>
    hasChanged condition.field record prior && literal.isSome
      && textEquals (prior.bind fun version => version.text condition.field) literal
  | .unknown => false

/-- Do the conditions hold together, as the mode combines them?  No conditions always do. -/
def listHolds (conditions : List Condition) (mode : LogicMode) (record : Record)
    (prior : Option Record) : Bool :=
  conditions.isEmpty
    || match mode with
      | .all => conditions.all fun condition => condition.holds record prior
      | .any => conditions.any fun condition => condition.holds record prior

def storedHolds (raw : String) (mode : LogicMode) (record : Record) (prior : Option Record) :
    Bool :=
  listHolds (listOfStored (.string raw)) mode record prior

end Condition
end RecordRules
