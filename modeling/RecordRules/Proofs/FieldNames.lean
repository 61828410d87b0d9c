import Mathlib.Data.List.Basic
import RecordRules.Record.Basic

/-!
# What names mean

A name means the stored field, or the declaration, that has it exactly, and
else the first that has it up to the case of ASCII letters.  Whatever a name
means has the name up to case; a declaration that some name means is also the
first among those of its own name.
-/

namespace RecordRules

/-! ## Names up to case -/

namespace Text

@[simp] theorem sameName_self (name : String) : sameName name name = true := by
  simp [sameName]

theorem sameName_comm (a b : String) : sameName a b = sameName b a :=
  Bool.beq_comm

theorem sameName_congr {a b : String} (h : sameName a b = true) (c : String) :
    sameName a c = sameName b c := by
  have hlower : a.toList.map asciiLowerChar = b.toList.map asciiLowerChar :=
    beq_iff_eq.mp h
  rw [sameName, sameName, hlower]

theorem sameName_trans {a b c : String}
    (hab : sameName a b = true) (hbc : sameName b c = true) :
    sameName a c = true := by
  rw [sameName_congr hab, hbc]

theorem asciiLower_eq_iff {a b : String} :
    asciiLower a = asciiLower b ↔ sameName a b = true := by
  rw [asciiLower, asciiLower, String.ofList_inj, sameName, beq_iff_eq]

theorem toNat_ofNat_of_lt {n : Nat} (h : n < 0xD800) :
    (Char.ofNat n).toNat = n := by
  have hvalid : n.isValidChar := .inl h
  rw [Char.ofNat, dif_pos hvalid]
  rfl

theorem toNat_asciiLowerChar (c : Char) :
    (asciiLowerChar c).toNat =
      if 65 ≤ c.toNat ∧ c.toNat ≤ 90 then c.toNat + 32 else c.toNat := by
  have hletter : ('A' ≤ c ∧ c ≤ 'Z') ↔ (65 ≤ c.toNat ∧ c.toNat ≤ 90) := Iff.rfl
  unfold asciiLowerChar
  by_cases h : 65 ≤ c.toNat ∧ c.toNat ≤ 90
  · rw [if_pos (hletter.mpr h), if_pos h, toNat_ofNat_of_lt (by omega)]
  · rw [if_neg (hletter.not.mpr h), if_neg h]

theorem toNat_asciiUpperChar (c : Char) :
    (asciiUpperChar c).toNat =
      if 97 ≤ c.toNat ∧ c.toNat ≤ 122 then c.toNat - 32 else c.toNat := by
  have hletter : ('a' ≤ c ∧ c ≤ 'z') ↔ (97 ≤ c.toNat ∧ c.toNat ≤ 122) := Iff.rfl
  unfold asciiUpperChar
  by_cases h : 97 ≤ c.toNat ∧ c.toNat ≤ 122
  · rw [if_pos (hletter.mpr h), if_pos h, toNat_ofNat_of_lt (by omega)]
  · rw [if_neg (hletter.not.mpr h), if_neg h]

theorem asciiLowerChar_asciiUpperChar (c : Char) :
    asciiLowerChar (asciiUpperChar c) = asciiLowerChar c := by
  apply Char.toNat_inj.mp
  simp only [toNat_asciiLowerChar, toNat_asciiUpperChar]
  split_ifs <;> omega

theorem asciiUpperChar_asciiLowerChar (c : Char) :
    asciiUpperChar (asciiLowerChar c) = asciiUpperChar c := by
  apply Char.toNat_inj.mp
  simp only [toNat_asciiLowerChar, toNat_asciiUpperChar]
  split_ifs <;> omega

/-- A text has a name in upper case as its upper-case form exactly if the two
agree up to case. -/
theorem asciiUpper_eq_iff {s name : String} (hname : asciiUpper name = name) :
    asciiUpper s = name ↔ sameName s name = true := by
  constructor
  · rintro rfl
    simp [sameName, asciiUpper, asciiLowerChar_asciiUpperChar]
  · intro hsame
    have hlower : s.toList.map asciiLowerChar = name.toList.map asciiLowerChar :=
      beq_iff_eq.mp hsame
    have hraised := congrArg (List.map asciiUpperChar) hlower
    simp only [List.map_map, Function.comp_def,
      asciiUpperChar_asciiLowerChar] at hraised
    rw [← hname, asciiUpper, hraised, asciiUpper]

end Text

/-! ## Stored names -/

namespace Fields

theorem isSome_get?_iff {name : String} {fields : Fields} :
    (get? name fields).isSome ↔ name ∈ names fields := by
  induction fields with
  | nil => simp [get?, names]
  | cons pair rest ih =>
      obtain ⟨key, value⟩ := pair
      by_cases hname : key = name
      · simp [get?, names, hname]
      · rw [get?, if_neg hname, ih]
        simp [names, Ne.symm hname]

/-- A name means a stored one that agrees with it up to case. -/
theorem resolve?_eq_some {name key : String} {fields : Fields}
    (h : resolve? name fields = some key) :
    key ∈ names fields ∧ Text.sameName key name = true := by
  unfold resolve? at h
  split at h
  · rename_i hstored
    obtain rfl := Option.some.inj h
    exact ⟨isSome_get?_iff.mp hstored, Text.sameName_self _⟩
  · exact ⟨List.mem_of_find?_eq_some h, by simpa using List.find?_some h⟩

end Fields

/-! ## Declared names -/

namespace Schema

variable {schema : Schema} {name : String} {field : FieldDescriptor}

theorem descriptor?_eq_some (h : schema.descriptor? name = some field) :
    field ∈ schema.fields ∧ Text.sameName field.name name = true := by
  unfold descriptor? at h
  split at h
  · rename_i exact hexact
    obtain rfl := Option.some.inj h
    have hname : exact.name = name := by simpa using List.find?_some hexact
    exact ⟨List.mem_of_find?_eq_some hexact, by simp [hname]⟩
  · exact ⟨List.mem_of_find?_eq_some h, by simpa using List.find?_some h⟩

/-- A name has a meaning as soon as one declaration agrees with it up to
case. -/
theorem exists_descriptor? (hmem : field ∈ schema.fields)
    (hname : Text.sameName field.name name = true) :
    ∃ meant, schema.descriptor? name = some meant := by
  unfold descriptor?
  split
  · exact ⟨_, rfl⟩
  · rw [← Option.isSome_iff_exists, List.find?_isSome]
    exact ⟨field, hmem, hname⟩

/-- What a name means is the first declaration of its own name. -/
theorem find?_name_of_descriptor? (h : schema.descriptor? name = some field) :
    (schema.fields.find? fun other => other.name == field.name) =
      some field := by
  unfold descriptor? at h
  split at h
  · rename_i exact hexact
    obtain rfl := Option.some.inj h
    have hname : exact.name = name := by simpa using List.find?_some hexact
    rw [hname, hexact]
  · have hsame : Text.sameName field.name name = true := by
      simpa using List.find?_some h
    rw [List.find?_eq_some_iff_append] at h ⊢
    obtain ⟨-, before, behind, hsplit, hbefore⟩ := h
    refine ⟨by simp, before, behind, hsplit, fun other hother => ?_⟩
    -- one of that name before it would have agreed with the name up to case
    have hdiffers := hbefore other hother
    simp only [Bool.not_eq_true', beq_eq_false_iff_ne] at hdiffers ⊢
    intro hname
    rw [hname, hsame] at hdiffers
    cases hdiffers

end Schema

end RecordRules
