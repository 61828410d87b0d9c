import RecordRules.Proofs.DecimalValues
import RecordRules.Proofs.IdentifierTexts
import RecordRules.Proofs.LiteralWrites

/-!
# Literals in their one form

A literal of any kind but decimals and timestamps is converted to one form, in
which blanks at its ends, the notation of an identifier and the case of a variant
no longer show.  The text of that form is converted to the same value.
-/

namespace RecordRules

/-! ## Trimmed texts -/

namespace Text

variable {a b s t : String}

theorem isBlank_asciiLowerChar (c : Char) :
    isBlank (asciiLowerChar c) = isBlank c := by
  have hlower := toNat_asciiLowerChar c
  split at hlower
  · rw [isBlank_of_visible (by omega), isBlank_of_visible (by omega)]
  · rw [isBlank, isBlank, hlower]

theorem trim_trim (s : String) : trim (trim s) = trim s := by
  rw [trim, trim, String.toList_ofList, trimChars_trimChars]

/-- What agrees up to case with a trimmed text has no blanks at its ends
either. -/
theorem trim_of_sameName_trim (h : sameName a (trim t) = true) :
    trim a = a := by
  have hlower :
      a.toList.map asciiLowerChar =
        (trimChars t.toList).map asciiLowerChar := by
    simpa [sameName, trim] using h
  have hends {c : Char} {end? : List Char → Option Char}
      (hmap : ∀ cs, end? (cs.map asciiLowerChar) =
        (end? cs).map asciiLowerChar)
      (htrimmed : ∀ d, end? (trimChars t.toList) = some d →
        isBlank d = false)
      (hc : end? a.toList = some c) : isBlank c = false := by
    have hmapped := hmap (trimChars t.toList)
    rw [← hlower, hmap, hc, Option.map_some, eq_comm,
      Option.map_eq_some_iff] at hmapped
    obtain ⟨d, hd, hsame⟩ := hmapped
    rw [← isBlank_asciiLowerChar, ← hsame, isBlank_asciiLowerChar,
      htrimmed d hd]
  rw [trim, trimChars_eq_self_of_ends, String.ofList_toList]
  · exact fun c => hends (fun _ => List.head?_map)
      fun d => isBlank_of_head?_trimChars
  · exact fun c => hends (fun _ => List.getLast?_map)
      fun d => isBlank_of_getLast?_trimChars

end Text

namespace Literal

variable {kind : FieldKind} {literal s : String} {value : Json}

/-! ## Identifiers -/

theorem readIdentifier?_eq_some_iff :
    readIdentifier? literal = some s ↔
      Text.trim literal ≠ "" ∧
        ((Uuid.read? (Text.trim literal)).map Uuid.text).getD
          (Text.trim literal) = s := by
  simp only [readIdentifier?]
  cases Uuid.read? (Text.trim literal) <;> simp

theorem trim_of_readIdentifier? (h : readIdentifier? literal = some s) :
    Text.trim s = s := by
  obtain ⟨-, rfl⟩ := readIdentifier?_eq_some_iff.mp h
  cases Uuid.read? (Text.trim literal) with
  | none => exact Text.trim_trim literal
  | some id => exact id.trim_text

theorem ne_empty_of_readIdentifier? (h : readIdentifier? literal = some s) :
    s ≠ "" := by
  obtain ⟨hsome, rfl⟩ := readIdentifier?_eq_some_iff.mp h
  cases Uuid.read? (Text.trim literal) with
  | none => exact hsome
  | some id => exact id.text_ne_empty

/-! ## Variants -/

theorem readVariant?_eq_some_iff {variants : List String}
    (hlisted : variants ≠ []) :
    readVariant? variants literal = some s ↔
      variants.find? (Text.sameName · (Text.trim literal)) = some s := by
  rw [readVariant?, if_neg (by simpa using hlisted)]

theorem find?_sameName_congr {variants : List String} {name : String}
    (hsame : Text.sameName s name = true) :
    variants.find? (Text.sameName · s) =
      variants.find? (Text.sameName · name) := by
  have halike : ∀ other, Text.sameName other s = Text.sameName other name := by
    intro other
    rw [Text.sameName_comm, Text.sameName_congr hsame, Text.sameName_comm]
  simp only [halike]

/-! ## Forms -/

/-- The value is the one form of a literal as a value of its kind: the literal
itself as a string; the integer of 64 bits or the truth value that is read; a
trimmed text that is not empty as an identifier, hyphenated and in lower case
if the literal is one in any notation; the trimmed literal if no variants are
listed, and else the first of them that agrees with it up to case. -/
inductive IsCanonical (literal : String) : FieldKind → Json → Prop where
  | string : IsCanonical literal .string (.string literal)
  | integer {n : Int} :
      Number.readInt64? (Text.trim literal) = some n →
      -2 ^ 63 ≤ n → n < 2 ^ 63 →
        IsCanonical literal .integer (.int n)
  | boolean {b : Bool} :
      readBool? literal = some b → IsCanonical literal .boolean (.bool b)
  | identifier {s : String} :
      s ≠ "" → Text.trim s = s →
      (∀ id : Uuid, id.Writes (Text.trim literal).toList → s = id.text) →
      ((∀ id : Uuid, ¬ id.Writes (Text.trim literal).toList) →
        s = Text.trim literal) →
        IsCanonical literal .identifier (.string s)
  | unlisted :
      IsCanonical literal (.enumeration []) (.string (Text.trim literal))
  | variant {variants : List String} {s : String} :
      s ∈ variants → Text.sameName s (Text.trim literal) = true →
      variants.find? (Text.sameName · s) = some s →
        IsCanonical literal (.enumeration variants) (.string s)

theorem isCanonical_of_readIdentifier? (h : readIdentifier? literal = some s) :
    IsCanonical literal .identifier (.string s) := by
  refine .identifier (ne_empty_of_readIdentifier? h)
    (trim_of_readIdentifier? h) (fun id hwrites => ?_) fun hnone => ?_
  all_goals obtain ⟨-, rfl⟩ := readIdentifier?_eq_some_iff.mp h
  · rw [Uuid.read?_eq_some_iff.mpr hwrites, Option.map_some, Option.getD_some]
  · rw [Uuid.read?_eq_none_iff.mpr hnone, Option.map_none, Option.getD_none]

theorem isCanonical_of_readVariant? {variants : List String}
    (h : readVariant? variants literal = some s) :
    IsCanonical literal (.enumeration variants) (.string s) := by
  by_cases hlisted : variants = []
  · subst hlisted
    obtain rfl := Option.some.inj h
    exact .unlisted
  · rw [readVariant?_eq_some_iff hlisted] at h
    have hsame : Text.sameName s (Text.trim literal) = true := by
      simpa using List.find?_some h
    exact .variant (List.mem_of_find?_eq_some h) hsame
      ((find?_sameName_congr hsame).trans h)

theorem isCanonical_of_convert
    (hdecimal : kind ≠ .decimal) (htimestamp : kind ≠ .timestamp)
    (h : convert kind literal = .ok value) :
    IsCanonical literal kind value := by
  unfold convert at h
  cases kind with
  | string =>
      obtain rfl := Except.ok.inj h
      exact .string
  | integer =>
      obtain ⟨n, hread, rfl⟩ := orFail_map_eq_ok h
      obtain ⟨hlow, hhigh⟩ :=
        Number.isInt64_iff.mp (Option.filter_eq_some_iff.mp hread).2
      exact .integer hread hlow hhigh
  | decimal => exact absurd rfl hdecimal
  | boolean =>
      obtain ⟨b, hread, rfl⟩ := orFail_map_eq_ok h
      exact .boolean hread
  | timestamp => exact absurd rfl htimestamp
  | identifier =>
      obtain ⟨s, hread, rfl⟩ := orFail_map_eq_ok h
      exact isCanonical_of_readIdentifier? hread
  | enumeration variants =>
      obtain ⟨s, hread, rfl⟩ := orFail_map_eq_ok h
      exact isCanonical_of_readVariant? hread

/-- What is in the one form of a literal is what the literal is converted to. -/
theorem IsCanonical.convert_eq (h : IsCanonical literal kind value) :
    convert kind literal = .ok value := by
  cases h with
  | string => rfl
  | integer hread _ _ =>
      rw [convert, hread]
      rfl
  | boolean hread =>
      rw [convert, hread]
      rfl
  | @identifier s hsome _ hwritten hother =>
      have hidentifier : readIdentifier? literal = some s := by
        rw [readIdentifier?_eq_some_iff]
        cases hread : Uuid.read? (Text.trim literal) with
        | none =>
            have hs := hother (Uuid.read?_eq_none_iff.mp hread)
            exact ⟨hs ▸ hsome, hs.symm⟩
        | some id =>
            have hs := hwritten id (Uuid.read?_eq_some_iff.mp hread)
            refine ⟨fun hempty => ?_, hs.symm⟩
            rw [hempty] at hread
            cases hread
      rw [convert, hidentifier]
      rfl
  | unlisted => rfl
  | @variant variants s hmem hsame hfirst =>
      have hvariant : readVariant? variants literal = some s := by
        rw [readVariant?_eq_some_iff (List.ne_nil_of_mem hmem),
          ← find?_sameName_congr hsame, hfirst]
      rw [convert, hvariant]
      rfl

/-- The text of a value in its one form has that form itself. -/
theorem IsCanonical.text (h : IsCanonical literal kind value) :
    ∃ text, value.text? = some text ∧ IsCanonical text kind value := by
  cases h with
  | string => exact ⟨literal, rfl, .string⟩
  | @integer n _ hlow hhigh =>
      have hrange := Number.isInt64_iff.mpr ⟨hlow, hhigh⟩
      refine ⟨Number.intText n, by simp [Json.text?, Json.print],
        .integer ?_ hlow hhigh⟩
      rw [Number.trim_intText, Number.readInt64?_intText hrange]
  | @boolean b _ =>
      cases b with
      | false => exact ⟨"false", rfl, .boolean rfl⟩
      | true => exact ⟨"true", rfl, .boolean rfl⟩
  | @identifier s hsome htrim hwritten hother =>
      refine ⟨s, rfl, .identifier hsome htrim (fun id hwrites => ?_)
        fun _ => htrim.symm⟩
      rw [htrim] at hwrites
      cases hread : Uuid.read? (Text.trim literal) with
      | none =>
          have hnone := Uuid.read?_eq_none_iff.mp hread
          rw [hother hnone] at hwrites
          exact absurd hwrites (hnone id)
      | some other =>
          have hs := hwritten other (Uuid.read?_eq_some_iff.mp hread)
          have hagain := Uuid.read?_eq_some_iff.mpr hwrites
          rw [hs, other.read?_text] at hagain
          rw [hs, Option.some.inj hagain]
  | unlisted =>
      refine ⟨Text.trim literal, rfl, ?_⟩
      have hform := @IsCanonical.unlisted (Text.trim literal)
      rwa [Text.trim_trim] at hform
  | @variant variants s hmem hsame hfirst =>
      -- a variant that is spelt like a trimmed text is not trimmed itself
      refine ⟨s, rfl, .variant hmem ?_ hfirst⟩
      rw [Text.trim_of_sameName_trim hsame]
      exact Text.sameName_self s

/-- A literal that is converted to a kind other than decimals and timestamps
gives its one form as a value of that kind, and the text of the value is
converted to it again. -/
theorem convert_canonical
    (hdecimal : kind ≠ .decimal) (htimestamp : kind ≠ .timestamp)
    (h : convert kind literal = .ok value) :
    IsCanonical literal kind value ∧
      ∃ text, value.text? = some text ∧ convert kind text = .ok value := by
  have hform := isCanonical_of_convert hdecimal htimestamp h
  obtain ⟨text, htext, hagain⟩ := hform.text
  exact ⟨hform, text, htext, hagain.convert_eq⟩

/-- A padded variant comes after the one that a padded literal means, and an
identifier behind its name is the same one without it. -/
theorem convert_canonical_spellings :
    (convert (.enumeration [" WARM", "Warm", "warm"]) " warm " =
        .ok (.string "Warm") ∧
      IsCanonical " warm " (.enumeration [" WARM", "Warm", "warm"])
        (.string "Warm")) ∧
      convert .identifier
          "URN:uuid:6BA7B810-9DAD-11D1-80B4-00C04FD430C8\n" =
        .ok (.string "6ba7b810-9dad-11d1-80b4-00c04fd430c8") ∧
      ∃ text,
        Json.text? (.string "6ba7b810-9dad-11d1-80b4-00c04fd430c8") =
            some text ∧
          convert .identifier text =
            .ok (.string "6ba7b810-9dad-11d1-80b4-00c04fd430c8") := by
  have hvariant :
      convert (.enumeration [" WARM", "Warm", "warm"]) " warm " =
        .ok (.string "Warm") :=
    rfl
  have hidentifier :
      convert .identifier
          "URN:uuid:6BA7B810-9DAD-11D1-80B4-00C04FD430C8\n" =
        .ok (.string "6ba7b810-9dad-11d1-80b4-00c04fd430c8") :=
    rfl
  exact ⟨⟨hvariant,
      (convert_canonical (by decide) (by decide) hvariant).1⟩,
    hidentifier, (convert_canonical (by decide) (by decide) hidentifier).2⟩

end Literal

end RecordRules
