import Mathlib.Data.List.Basic
import RecordRules.Template

/-!
# Values with their placeholders resolved

Resolving goes into a value and replaces texts only.  So the same steps lead
into the value before and after, to objects with the same keys, to arrays of the
same length, to the same numbers, and to the texts resolved.
-/

namespace RecordRules

namespace Json

inductive Step where
  | field (name : String)
  | item (index : Nat)
  deriving DecidableEq, Repr

/-- The value to which steps lead, if they lead to one. -/
def at? : List Step → Json → Option Json
  | [], value => some value
  | .field name :: rest, .object fields => (Fields.get? name fields).bind (at? rest)
  | .item index :: rest, .array items => items[index]?.bind (at? rest)
  | _ :: _, _ => none

/-- Is the value neither a text nor made of other values? -/
def isPlain : Json → Bool
  | .string _ => false
  | .array _ => false
  | .object _ => false
  | _ => true

end Json

namespace Template

variable {record : Record}

theorem get?_resolveFields (record : Record) (name : String) (fields : Fields) :
    Fields.get? name (resolveFields record fields) =
      (Fields.get? name fields).map (resolveJson record) := by
  induction fields with
  | nil => rfl
  | cons pair rest ih =>
      obtain ⟨key, value⟩ := pair
      rw [resolveFields, Fields.get?, Fields.get?, ih]
      split <;> rfl

@[simp] theorem names_resolveFields (record : Record) (fields : Fields) :
    Fields.names (resolveFields record fields) = Fields.names fields := by
  induction fields with
  | nil => rfl
  | cons pair rest ih => exact congrArg (pair.1 :: ·) ih

theorem resolveItems_eq_map (record : Record) (items : List Json) :
    resolveItems record items = items.map (resolveJson record) := by
  induction items with
  | nil => rfl
  | cons item rest ih => rw [resolveItems, ih, List.map_cons]

theorem at?_resolveJson (path : List Json.Step) (value : Json) :
    (resolveJson record value).at? path =
      (value.at? path).map (resolveJson record) := by
  induction path generalizing value with
  | nil => rfl
  | cons step rest ih =>
      cases step with
      | field name =>
          cases value with
          -- only an object has fields, before and after
          | object fields =>
              rw [resolveJson, Json.at?, Json.at?, get?_resolveFields,
                Option.bind_map, Option.map_bind]
              exact congrArg _ (funext fun inner => ih inner)
          | _ => rfl
      | item index =>
          cases value with
          | array items =>
              rw [resolveJson, Json.at?, Json.at?, resolveItems_eq_map,
                List.getElem?_map, Option.bind_map, Option.map_bind]
              exact congrArg _ (funext fun inner => ih inner)
          | _ => rfl

/-- The second value is the first one with its placeholders resolved: the same
steps lead into both, to objects with the same keys, to arrays of the same
length, and but for texts, which are resolved, to the same values. -/
structure Resolves (record : Record) (before after : Json) : Prop where
  steps : ∀ path, (after.at? path).isSome = (before.at? path).isSome
  keys : ∀ path fields, before.at? path = some (.object fields) →
    ∃ later, after.at? path = some (.object later) ∧
      Fields.names later = Fields.names fields
  lengths : ∀ path items, before.at? path = some (.array items) →
    ∃ later, after.at? path = some (.array later) ∧
      later.length = items.length
  texts : ∀ path s, before.at? path = some (.string s) →
    after.at? path = some (.string (resolve s record))
  plain : ∀ path value, before.at? path = some value →
    value.isPlain = true → after.at? path = some value

theorem resolves_resolveJson (record : Record) (value : Json) :
    Resolves record value (resolveJson record value) where
  steps path := by rw [at?_resolveJson, Option.isSome_map]
  keys path fields h := by
    refine ⟨resolveFields record fields, ?_, names_resolveFields record fields⟩
    rw [at?_resolveJson, h, Option.map_some, resolveJson]
  lengths path items h := by
    refine ⟨resolveItems record items, ?_, ?_⟩
    · rw [at?_resolveJson, h, Option.map_some, resolveJson]
    · rw [resolveItems_eq_map, List.length_map]
  texts path s h := by
    rw [at?_resolveJson, h, Option.map_some, resolveJson]
  plain path inner h hplain := by
    rw [at?_resolveJson, h, Option.map_some]
    cases inner with
    | string _ | array _ | object _ => cases hplain
    | _ => rfl

end Template

end RecordRules
