import RecordRules.Record.Basic
import RecordRules.Text.Ascii

/-!
# Templates

Texts with placeholders, a field path in double braces.  Each placeholder is replaced by the text
of the field, or by nothing, in one pass from left to right; what is inserted is not looked at
again.
-/

namespace RecordRules
namespace Template

/-- May the character stand in the path of a placeholder? -/
def isPathChar (c : Char) : Bool := Text.isAsciiAlphanumeric c || c == '_' || c == '.'

/-- The path of a placeholder at the beginning, and what follows the placeholder. -/
def placeholder? (cs : List Char) : Option (String × List Char) :=
  match cs with
  | '\x7b' :: '\x7b' :: rest =>
    let rest := Text.trimStart rest
    let path := rest.takeWhile isPathChar
    match path, Text.trimStart (rest.dropWhile isPathChar) with
    | _ :: _, '\x7d' :: '\x7d' :: behind => some (String.ofList path, behind)
    | _, _ => none
  | _ => none

/-- Trimming never lengthens. -/
theorem length_trimStart_le (cs : List Char) : (Text.trimStart cs).length ≤ cs.length :=
  (List.dropWhile_sublist _).length_le

/-- What follows a placeholder is shorter than the text it begins. -/
theorem length_of_placeholder? {cs behind : List Char} {path : String}
    (h : placeholder? cs = some (path, behind)) : behind.length < cs.length := by
  unfold placeholder? at h
  split at h
  · rename_i rest
    simp only at h
    split at h
    · rename_i later _ hrest
      have hlater := length_trimStart_le ((Text.trimStart rest).dropWhile isPathChar)
      have hdrop := (List.dropWhile_sublist isPathChar (l := Text.trimStart rest)).length_le
      have hstart := length_trimStart_le rest
      simp only [Option.some.injEq, Prod.mk.injEq] at h
      obtain ⟨-, rfl⟩ := h
      rw [hrest] at hlater
      simp only [List.length_cons] at hlater ⊢
      omega
    · simp at h
  · simp at h

/-- Replaces every placeholder by what the argument gives for its path. -/
def expand (value : String → String) (cs : List Char) : List Char :=
  match h : placeholder? cs with
  | some (path, behind) =>
    have := length_of_placeholder? h
    (value path).toList ++ expand value behind
  | none =>
    match cs with
    | [] => []
    | c :: rest => c :: expand value rest
termination_by cs.length

/-- The template with every placeholder replaced by the text of the record's field. -/
def resolve (template : String) (record : Record) : String :=
  String.ofList (expand (fun path => (record.text path).getD "") template.toList)

mutual

def resolveJson (record : Record) : Json → Json
  | .string s => .string (resolve s record)
  | .array items => .array (resolveItems record items)
  | .object fields => .object (resolveFields record fields)
  | value => value

/-- Resolves every text within values. -/
def resolveItems (record : Record) : List Json → List Json
  | [] => []
  | item :: rest => resolveJson record item :: resolveItems record rest

/-- Resolves every text within the values of fields. -/
def resolveFields (record : Record) : List (String × Json) → List (String × Json)
  | [] => []
  | (name, value) :: rest => (name, resolveJson record value) :: resolveFields record rest

end

end Template
end RecordRules
