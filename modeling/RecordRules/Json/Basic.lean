import RecordRules.Number.Power
import RecordRules.Number.Shortest

/-!
# JSON values

The dynamic values that records, configurations and payloads are made of.  Integers and
floating-point numbers are kept apart, because their texts differ.  An object is a list of named
values in increasing order of the names; the operations on fields keep that order.
-/

namespace RecordRules

/-- A JSON value; an object lists its fields in increasing order of their names. -/
inductive Json where
  | null
  | bool (value : Bool)
  | int (value : Int)
  | float (value : Number.Binary64)
  | string (value : String)
  | array (items : List Json)
  | object (fields : List (String × Json))
  deriving Repr, Inhabited

/-- The fields of an object, or of a record. -/
abbrev Fields := List (String × Json)

namespace Fields

def get? (name : String) : Fields → Option Json
  | [] => none
  | (key, value) :: rest => if key = name then some value else get? name rest

/-- Stores a value under a name, in the place of an older one or where order demands. -/
def insert (name : String) (value : Json) : Fields → Fields
  | [] => [(name, value)]
  | (key, old) :: rest =>
    if name = key then (name, value) :: rest
    else if name < key then (name, value) :: (key, old) :: rest
    else (key, old) :: insert name value rest

/-- Stores every pair in turn; a later pair wins over an earlier one of the same name. -/
def insertAll (fields : Fields) (pairs : List (String × Json)) : Fields :=
  pairs.foldl (fun result pair => insert pair.1 pair.2 result) fields

def ofList (pairs : List (String × Json)) : Fields := insertAll [] pairs

def names (fields : Fields) : List String := fields.map Prod.fst

/-- Names strictly increase, as every operation here keeps them. -/
def Sorted (fields : Fields) : Prop := (names fields).Pairwise (· < ·)

end Fields

namespace Json

/-- The integers a number without point and exponent may denote. -/
def isIntegral (n : Int) : Bool := 
  decide (-(Number.twos 63 : Int) ≤ n ∧ n < Number.twos 64)

def isNull : Json → Bool
  | .null => true
  | _ => false

def isString : Json → Bool
  | .string _ => true
  | _ => false

/-- The value of an option, null when there is none. -/
def ofOption (encode : α → Json) : Option α → Json
  | some a => encode a
  | none => .null

def ofNat (n : Nat) : Json := .int n

def ofText? (s : Option String) : Json := ofOption .string s

def ofList (encode : α → Json) (items : List α) : Json := .array (items.map encode)

/-- The value of a field of an object; null when it is missing or there is no object. -/
def field (name : String) : Json → Json
  | .object fields => (Fields.get? name fields).getD .null
  | _ => .null

end Json

end RecordRules
