import RecordRules.Json.Reader
import RecordRules.Proofs.StructureDecoding

/-!
# Texts in JSON text

Only what stands between quotes is read as a text, and every character of it
takes at least one to write.  So a text that is read from JSON text is shorter
than that JSON text, and texts within texts come to an end.
-/

namespace RecordRules
namespace Json

/-! ## Values other than texts -/

/-- The reader gives no value, or one that is no text. -/
def GivesNoText (result : Except ReadError (Json × Cursor)) : Prop :=
  ∀ json after, result = .ok (json, after) → json.isString = false

namespace GivesNoText

theorem error (fault : ReadError) : GivesNoText (.error fault) := by
  intro json after h
  cases h

theorem ok {json : Json} (hjson : json.isString = false) (after : Cursor) :
    GivesNoText (.ok (json, after)) := by
  intro _ _ h
  cases h
  exact hjson

theorem bind {α : Type} {x : Except ReadError α}
    {next : α → Except ReadError (Json × Cursor)}
    (hnext : ∀ a, GivesNoText (next a)) : GivesNoText (x >>= next) := by
  cases x with
  | error fault => exact error fault
  | ok a => exact hnext a

theorem ite {p : Prop} [Decidable p]
    {first second : Except ReadError (Json × Cursor)}
    (hfirst : GivesNoText first) (hsecond : GivesNoText second) :
    GivesNoText (if p then first else second) := by
  split
  · exact hfirst
  · exact hsecond

end GivesNoText

theorem readKeyword_noText
    {value : Json} (hvalue : value.isString = false) (word : List Char)
    (cursor : Cursor) : GivesNoText (readKeyword value word cursor) := by
  induction word generalizing cursor with
  | nil => exact .ok hvalue cursor
  | cons expected word ih =>
      unfold readKeyword
      split
      · exact .error _
      split
      · exact ih _
      · exact .error _

theorem outOfRange_noText
    (cursor : Cursor) (positive : Bool) (significand : Nat) (exponent : Int) :
    GivesNoText (outOfRange cursor (assemble positive significand exponent)) := by
  unfold assemble
  cases scaleByTen 4 (Number.Binary64.ofNat significand) exponent with
  | none => exact .error _
  | some x => exact .ok rfl _

theorem wholeNumber_isString (positive : Bool) (significand : Nat) :
    (wholeNumber positive significand).isString = false := by
  unfold wholeNumber
  split
  · rfl
  split <;> rfl

theorem readExponent_noText
    (positive : Bool) (significand : Nat) (start : Int) (cursor : Cursor) :
    GivesNoText (readExponent positive significand start cursor) := by
  unfold readExponent
  dsimp only
  split
  · exact .error _
  · exact .error _
  split
  · exact outOfRange_noText _ _ _ _
  · exact .ite (.error _) (.ok rfl _)

theorem readAfterFraction_noText
    (positive : Bool) (significand : Nat) (exponent : Int) (cursor : Cursor) :
    GivesNoText (readAfterFraction positive significand exponent cursor) := by
  unfold readAfterFraction
  split
  · exact readExponent_noText _ _ _ _
  · exact readExponent_noText _ _ _ _
  · exact outOfRange_noText _ _ _ _

theorem readNumber_noText (positive : Bool) (cursor : Cursor) :
    GivesNoText (readNumber positive cursor) := by
  unfold readNumber
  dsimp only
  split
  · split <;> exact .error _
  · exact .error _
  split
  · split
    · exact .error _
    · exact readAfterFraction_noText _ _ _ _
  · exact readExponent_noText _ _ _ _
  · exact readExponent_noText _ _ _ _
  split
  · exact .ok (wholeNumber_isString _ _) _
  · exact outOfRange_noText _ _ _ _

theorem readItems_noText
    (fuel depth : Nat) (read : List Json) (cursor : Cursor) :
    GivesNoText (readItems fuel depth read cursor) := by
  induction fuel generalizing read cursor with
  | zero =>
      rw [readItems]
      exact .error _
  | succ fuel ih =>
      unfold readItems
      dsimp only
      split
      · exact .error _
      · exact .ok rfl _
      split
      · exact .bind fun _ => ih _ _
      split
      · split
        · exact .error _
        · exact .error _
        · exact .bind fun _ => ih _ _
      · exact .error _

/-- The fields of an object and the field at an opening quote are read in
turn. -/
theorem readMembers_noText (fuel depth : Nat) :
    (∀ first read cursor,
      GivesNoText (readMembers fuel depth first read cursor)) ∧
    (∀ read cursor, GivesNoText (readMember fuel depth read cursor)) := by
  induction fuel with
  | zero =>
      constructor
      · intro first read cursor
        rw [readMembers]
        exact .error _
      · intro read cursor
        rw [readMember]
        exact .error _
  | succ fuel ih =>
      obtain ⟨ihmembers, ihmember⟩ := ih
      constructor
      · intro first read cursor
        unfold readMembers
        dsimp only
        split
        · exact .error _
        · exact .ok rfl _
        · split
          · exact ihmember _ _
          · exact .error _
        split
        · exact .error _
        split
        · split
          · exact .error _
          · exact ihmember _ _
          · exact .error _
          · exact .error _
        · exact .error _
      · intro read cursor
        unfold readMember
        refine .bind fun _ => ?_
        dsimp only
        split
        · exact .error _
        · exact .bind fun _ => ihmembers _ _ _
        · exact .error _

/-! ## Texts -/

@[simp] theorem Cursor.rest_behind (cursor : Cursor) (c : Char) (rest : List Char) :
    (cursor.behind c rest).rest = rest := by
  unfold behind
  split <;> rfl

theorem Cursor.length_skip_le (cursor : Cursor) :
    cursor.skip.rest.length ≤ cursor.rest.length := by
  unfold skip
  generalize cursor.line = line, cursor.column = column
  induction cursor.rest generalizing line column with
  | nil => exact Nat.le_refl _
  | cons c rest ih =>
      unfold skipBlanks
      split
      · exact Nat.le_succ_of_le (ih _ _)
      split
      · exact Nat.le_succ_of_le (ih _ _)
      · exact Nat.le_refl _

theorem length_readHexWord_le
    {cursor after : Cursor} {n : Nat} (h : readHexWord cursor = .ok (n, after)) :
    after.rest.length ≤ cursor.rest.length := by
  unfold readHexWord at h
  split at h
  · cases h
  split at h
  · cases h
    simp
  · cases h

theorem length_expectInPair_le
    {cursor after : Cursor} {c : Char}
    (h : expectInPair c cursor = .ok after) :
    after.rest.length ≤ cursor.rest.length := by
  unfold expectInPair at h
  split at h
  · cases h
  · rename_i hrest
    split at h
    · cases h
      simp [hrest]
    · cases h

theorem length_readNumbered_le
    {cursor after : Cursor} {c : Char}
    (h : readNumbered cursor = .ok (c, after)) :
    after.rest.length ≤ cursor.rest.length := by
  obtain ⟨⟨first, behind⟩, hfirst, h⟩ := bind_eq_ok h
  have hbehind := length_readHexWord_le hfirst
  dsimp only at h
  split at h
  · cases h
  split at h
  · cases h
    exact hbehind
  obtain ⟨slash, hslash, h⟩ := bind_eq_ok h
  obtain ⟨letter, hletter, h⟩ := bind_eq_ok h
  obtain ⟨⟨second, last⟩, hsecond, h⟩ := bind_eq_ok h
  have hslash := length_expectInPair_le hslash
  have hletter := length_expectInPair_le hletter
  have hlast := length_readHexWord_le hsecond
  dsimp only at h
  split at h
  · cases h
  · obtain rfl : last = after := (Prod.mk.inj (Except.ok.inj h)).2
    omega

theorem length_readEscape_le
    {cursor after : Cursor} {c : Char}
    (h : readEscape cursor = .ok (c, after)) :
    after.rest.length ≤ cursor.rest.length := by
  unfold readEscape at h
  split at h
  · cases h
  rename_i first rest hrest
  have hshorter : (cursor.behind first rest).rest.length ≤ cursor.rest.length := by
    simp [hrest]
  dsimp only at h
  split at h
  case h_9 => exact Nat.le_trans (length_readNumbered_le h) hshorter
  case h_10 => cases h
  all_goals
    cases h
    exact hshorter

/-- The closing quote and at least one character for each of the text are
read. -/
theorem length_readStringFrom
    {fuel : Nat} {read : List Char} {cursor after : Cursor} {s : String}
    (h : readStringFrom fuel read cursor = .ok (s, after)) :
    s.toList.length + after.rest.length + 1 ≤
      read.length + cursor.rest.length := by
  induction fuel generalizing read cursor with
  | zero => cases h
  | succ fuel ih =>
      unfold readStringFrom at h
      split at h
      · cases h
      rename_i c rest hrest
      rw [hrest, List.length_cons]
      split at h
      · cases h
        rw [String.toList_ofList, List.length_reverse, Cursor.rest_behind]
        omega
      split at h
      · obtain ⟨⟨escaped, behind⟩, hescape, h⟩ := bind_eq_ok h
        have hbehind := length_readEscape_le hescape
        rw [Cursor.rest_behind] at hbehind
        have hread := ih h
        rw [List.length_cons] at hread
        omega
      split at h
      · cases h
      · have hread := ih h
        rw [List.length_cons, Cursor.rest_behind] at hread
        omega

/-- A value that is a text was read between two quotes. -/
theorem length_readValue
    {fuel depth : Nat} {cursor after : Cursor} {s : String}
    (h : readValue fuel depth cursor = .ok (.string s, after)) :
    s.toList.length + after.rest.length + 2 ≤ cursor.rest.length := by
  have hother {result : Except ReadError (Json × Cursor)}
      (hresult : GivesNoText result) (heq : result = .ok (.string s, after)) :
      s.toList.length + after.rest.length + 2 ≤ cursor.rest.length := by
    cases hresult _ _ heq
  cases fuel with
  | zero =>
      rw [readValue] at h
      cases h
  | succ fuel =>
      unfold readValue at h
      dsimp only at h
      split at h
      · cases h
      rename_i c rest hrest
      split at h
      · exact hother (readKeyword_noText rfl _ _) h
      · exact hother (readKeyword_noText rfl _ _) h
      · exact hother (readKeyword_noText rfl _ _) h
      · exact hother (readNumber_noText _ _) h
      · obtain ⟨⟨text, behind⟩, htext, h⟩ := bind_eq_ok h
        obtain ⟨rfl, rfl⟩ : text = s ∧ behind = after := by
          cases h
          exact ⟨rfl, rfl⟩
        have hread := length_readStringFrom htext
        have hskip := cursor.length_skip_le
        rw [hrest, List.length_cons] at hskip
        rw [Cursor.rest_behind, List.length_nil] at hread
        omega
      · exact hother (.ite (.error _) (readItems_noText _ _ _ _)) h
      · exact hother (.ite (.error _) ((readMembers_noText _ _).1 _ _ _)) h
      · exact hother (.ite (readNumber_noText _ _) (.error _)) h

/-- A text in JSON text is shorter than that JSON text. -/
theorem length_lt_of_parse
    {s t : String} (h : parse s = .ok (.string t)) :
    t.toList.length < s.toList.length := by
  obtain ⟨⟨json, cursor⟩, hvalue, h⟩ := bind_eq_ok h
  dsimp only at h
  split at h
  · cases h
    have hread := length_readValue hvalue
    simp only [Cursor.ofText] at hread
    omega
  · cases h

end Json
end RecordRules
