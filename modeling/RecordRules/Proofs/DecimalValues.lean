import Mathlib.Algebra.Order.Field.Rat
import Mathlib.Order.Compare
import Mathlib.Tactic.FieldSimp
import Mathlib.Tactic.Positivity
import RecordRules.Json.Basic
import RecordRules.Number.Decimal
import RecordRules.Proofs.CharacterRuns

/-!
# Values of decimals

Decimals are compared by the rational numbers that they stand for.  The text of
an integer is read as that integer.  What is read as a decimal is made of few
characters, and has no hyphen behind its first one, except in an exponent.
-/

namespace RecordRules

namespace Number

/-! ## Digits -/

theorem isDigit_digitChar {d : Nat} (h : d < 10) :
    (digitChar d).isDigit = true ∧ digitValue (digitChar d) = d := by
  have hall : ∀ d < 10,
      (digitChar d).isDigit = true ∧ digitValue (digitChar d) = d := by
    decide
  exact hall d h

theorem isDigit_of_mem_digits {n : Nat} {c : Char} (h : c ∈ digits n) :
    c.isDigit = true := by
  induction n using digits.induct with
  | case1 n hn =>
      rw [digits, if_pos hn, List.mem_singleton] at h
      rw [h]
      exact (isDigit_digitChar hn).1
  | case2 n hn ih =>
      rw [digits, if_neg hn, List.mem_append, List.mem_singleton] at h
      rcases h with h | rfl
      · exact ih h
      · exact (isDigit_digitChar (Nat.mod_lt n (by decide))).1

theorem digits_ne_nil (n : Nat) : digits n ≠ [] := by
  rw [digits]
  split <;> simp

theorem readDigits_digits (n : Nat) : readDigits 0 (digits n) = n := by
  induction n using digits.induct with
  | case1 n hn =>
      rw [digits, if_pos hn, readDigits, List.foldl_cons,
        (isDigit_digitChar hn).2]
      simp
  | case2 n hn ih =>
      rw [readDigits] at ih
      rw [digits, if_neg hn, readDigits, List.foldl_append, ih,
        List.foldl_cons, (isDigit_digitChar (Nat.mod_lt n (by decide))).2,
        List.foldl_nil]
      omega

theorem toList_intText_ofNat (m : Nat) :
    (intText (.ofNat m)).toList = digits m := by
  simp [intText, natText]

theorem toList_intText_negSucc (m : Nat) :
    (intText (.negSucc m)).toList = '-' :: digits (m + 1) := by
  simp [intText, natText]

theorem isBlank_of_mem_intText {n : Int} {c : Char}
    (hc : c ∈ (intText n).toList) : Text.isBlank c = false := by
  cases n with
  | ofNat m =>
      rw [toList_intText_ofNat] at hc
      exact Text.isBlank_of_isDigit (isDigit_of_mem_digits hc)
  | negSucc m =>
      rw [toList_intText_negSucc, List.mem_cons] at hc
      rcases hc with rfl | hc
      · decide
      · exact Text.isBlank_of_isDigit (isDigit_of_mem_digits hc)

theorem trim_intText (n : Int) : Text.trim (intText n) = intText n := by
  rw [Text.trim, Text.trimChars_eq_self fun _ => isBlank_of_mem_intText,
    String.ofList_toList]

/-- The text of an integer is read as that integer. -/
theorem readInt?_intText (n : Int) : readInt? (intText n) = some n := by
  have hdigits : ∀ m, ((digits m).isEmpty || !(digits m).all Char.isDigit) = false := by
    intro m
    simp only [Bool.or_eq_false_iff, List.isEmpty_eq_false_iff,
      Bool.not_eq_false', List.all_eq_true]
    exact ⟨digits_ne_nil m, fun c hc => isDigit_of_mem_digits hc⟩
  cases n with
  | ofNat m =>
      rw [readInt?, toList_intText_ofNat]
      split
      · rename_i rest heq
        cases isDigit_of_mem_digits (n := m) (heq ▸ List.mem_cons_self)
      · rename_i rest heq
        cases isDigit_of_mem_digits (n := m) (heq ▸ List.mem_cons_self)
      · simp only [hdigits, readDigits_digits]
        rfl
  | negSucc m =>
      rw [readInt?, toList_intText_negSucc]
      simp only [hdigits, readDigits_digits]
      rfl

theorem isInt64_iff {n : Int} :
    isInt64 n = true ↔ -2 ^ 63 ≤ n ∧ n < 2 ^ 63 := by
  have htwos : (twos 63 : Int) = 2 ^ 63 := rfl
  rw [isInt64, decide_eq_true_eq, htwos]

theorem readInt64?_intText {n : Int} (h : isInt64 n = true) :
    readInt64? (intText n) = some n := by
  rw [readInt64?, readInt?_intText, Option.filter_some, if_pos h]

theorem le_readDigits (start : Nat) (cs : List Char) :
    start ≤ readDigits start cs := by
  induction cs generalizing start with
  | nil => exact Nat.le_refl start
  | cons c rest ih =>
      have hrest := ih (10 * start + digitValue c)
      change start ≤ readDigits (10 * start + digitValue c) rest
      omega

namespace Decimal

/-! ## Order -/

/-- The rational number that a decimal stands for. -/
def value (d : Decimal) : ℚ :=
  (if d.negative then -(d.significand : ℚ) else d.significand) / 10 ^ d.places

theorem scaledTo_eq {d : Decimal} {places : Nat} (h : d.places ≤ places) :
    (d.scaledTo places : ℚ) = d.value * 10 ^ places := by
  obtain ⟨more, rfl⟩ := Nat.exists_eq_add_of_le h
  have htens : (tens more : ℚ) = 10 ^ more := by
    simp [tens]
  rw [scaledTo, value, Nat.add_sub_cancel_left, pow_add]
  cases d.negative <;> simp [htens] <;> field_simp

theorem compare_eq_cmp (a b : Decimal) : a.compare b = cmp a.value b.value := by
  have hpositive : (0 : ℚ) < 10 ^ max a.places b.places := by positivity
  have hcast : StrictMono (Int.cast : ℤ → ℚ) := Int.cast_strictMono
  rw [compare, ← cmp_eq_compare, ← hcast.cmp_map_eq,
    scaledTo_eq (le_max_left _ _), scaledTo_eq (le_max_right _ _),
    cmp_mul_pos_right hpositive]

/-! ## Integers -/

/-- Digits that fit are read as the number that they denote. -/
theorem readFrom_digits
    {negative : Bool} {state : Partial} {ds : List Char}
    (hds : ∀ c ∈ ds, c.isDigit = true)
    (hpoint : state.seenPoint = false) (hplaces : state.places = 0)
    (hsome : state.seenDigit = true ∨ ds ≠ [])
    (hbound : readDigits state.significand ds < bound) :
    readFrom negative state ds =
      some (signed negative (readDigits state.significand ds) 0) := by
  induction ds generalizing state with
  | nil =>
      have hseen : state.seenDigit = true :=
        hsome.resolve_right fun hne => hne rfl
      rw [readFrom, if_pos hseen, hplaces]
      rfl
  | cons c rest ih =>
      have hmore : ¬ mostPlaces ≤ state.places := by
        rw [hplaces]
        decide
      have hnext :
          10 * state.significand + digitValue c ≤
            readDigits state.significand (c :: rest) :=
        le_readDigits _ rest
      have hfits : ¬ bound ≤ 10 * state.significand + digitValue c := by
        omega
      rw [readFrom, if_neg hmore, if_pos (hds c List.mem_cons_self)]
      simp only [if_neg hfits, hpoint, Bool.false_eq_true, if_false]
      exact ih (fun d hd => hds d (List.mem_cons_of_mem c hd)) rfl rfl
        (.inl rfl) hbound

theorem value_signed (negative : Bool) (n : Nat) :
    (signed negative n 0).value = if negative then -(n : ℚ) else n := by
  cases negative with
  | false => simp [signed, value]
  | true =>
      by_cases hn : n = 0 <;> simp [signed, value, hn]

theorem readPlain?_digits {n : Nat} (h : n < bound) :
    readPlain? (digits n) = some (signed false n 0) := by
  have hread :
      readFrom false ⟨0, 0, false, false, false⟩ (digits n) =
        some (signed false n 0) := by
    rw [readFrom_digits (fun c => isDigit_of_mem_digits) rfl rfl
      (.inr (digits_ne_nil n)) (by rwa [readDigits_digits]),
      readDigits_digits]
  unfold readPlain?
  split
  · rename_i rest heq
    cases isDigit_of_mem_digits (n := n) (heq ▸ List.mem_cons_self)
  · rename_i rest heq
    cases isDigit_of_mem_digits (n := n) (heq ▸ List.mem_cons_self)
  · exact hread

theorem readPlain?_minus_digits {n : Nat} (h : n < bound) :
    readPlain? ('-' :: digits n) = some (signed true n 0) := by
  change readFrom true ⟨0, 0, false, false, false⟩ (digits n) = _
  rw [readFrom_digits (fun c => isDigit_of_mem_digits) rfl rfl
    (.inr (digits_ne_nil n)) (by rwa [readDigits_digits]), readDigits_digits]

/-- The text of an integer whose digits fit is read as that integer. -/
theorem read?_intText {n : Int} (h : n.natAbs < bound) :
    ∃ d, read? (intText n) = some d ∧ d.value = n := by
  have hread {d : Decimal} (hplain : readPlain? (intText n).toList = some d) :
      read? (intText n) = some d := by
    rw [read?, Text.trimChars_eq_self fun _ => isBlank_of_mem_intText, hplain]
  cases n with
  | ofNat m =>
      rw [toList_intText_ofNat] at hread
      refine ⟨_, hread (readPlain?_digits h), ?_⟩
      rw [value_signed]
      simp
  | negSucc m =>
      rw [toList_intText_negSucc] at hread
      refine ⟨_, hread (readPlain?_minus_digits h), ?_⟩
      rw [value_signed, if_pos rfl, Int.cast_negSucc]

theorem natAbs_lt_bound {n : Int} (h : Json.isIntegral n = true) :
    n.natAbs < bound := by
  have hrange : -(twos 63 : Int) ≤ n ∧ n < twos 64 := by
    simpa [Json.isIntegral] using h
  have h63 : twos 63 = 2 ^ 63 := rfl
  have h64 : twos 64 = 2 ^ 64 := rfl
  have hbound : bound = 2 ^ 96 := rfl
  omega

/-! ## Characters -/

/-- May the character stand in a plain numeral behind its sign? -/
def isNumeralChar (c : Char) : Bool := isFiller c || c == '.'

theorem isNumeralChar_of_roundAt
    {negative wide : Bool} {significand places : Nat} {rest : List Char}
    {d : Decimal} (h : roundAt negative wide significand places rest = some d) :
    ∀ c ∈ rest, isNumeralChar c = true := by
  unfold roundAt at h
  split at h
  · cases h
  · rename_i hall
    rw [Bool.not_eq_true, Bool.not_eq_false', List.all_eq_true] at hall
    intro c hc
    rw [isNumeralChar, hall c hc, Bool.true_or]

theorem isNumeralChar_of_readFrom
    {negative : Bool} {state : Partial} {cs : List Char} {d : Decimal}
    (h : readFrom negative state cs = some d) :
    ∀ c ∈ cs, isNumeralChar c = true := by
  induction cs generalizing state with
  | nil => simp
  | cons c rest ih =>
      unfold readFrom at h
      split at h
      · exact isNumeralChar_of_roundAt h
      split at h
      · rename_i hdigit
        have hc : isNumeralChar c = true := by
          simp [isNumeralChar, isFiller, hdigit]
        dsimp only at h
        by_cases hwide : bound ≤ 10 * state.significand + digitValue c
        · rw [if_pos hwide] at h
          split at h
          · exact isNumeralChar_of_roundAt h
          · cases h
        · rw [if_neg hwide] at h
          exact List.forall_mem_cons.mpr ⟨hc, ih h⟩
      split at h
      · rename_i hpoint
        have hc : isNumeralChar c = true := by
          simp [isNumeralChar, hpoint.1]
        exact List.forall_mem_cons.mpr ⟨hc, ih h⟩
      split at h
      · rename_i hunderscore
        have hc : isNumeralChar c = true := by
          simp [isNumeralChar, isFiller, hunderscore.1]
        exact List.forall_mem_cons.mpr ⟨hc, ih h⟩
      · cases h

/-- A plain numeral may begin with a sign. -/
theorem exists_of_readPlain?
    {cs : List Char} {d : Decimal} (h : readPlain? cs = some d) :
    ∃ first rest, cs = first :: rest ∧
      (first = '-' ∨ first = '+' ∨ isNumeralChar first = true) ∧
      ∀ c ∈ rest, isNumeralChar c = true := by
  unfold readPlain? at h
  split at h
  · exact ⟨_, _, rfl, .inl rfl, isNumeralChar_of_readFrom h⟩
  · exact ⟨_, _, rfl, .inr (.inl rfl), isNumeralChar_of_readFrom h⟩
  · have hchars := isNumeralChar_of_readFrom h
    cases cs with
    | nil => cases h
    | cons first rest =>
        obtain ⟨hfirst, hrest⟩ := List.forall_mem_cons.mp hchars
        exact ⟨first, rest, rfl, .inr (.inr hfirst), hrest⟩

/-- May the character stand in the text of a decimal? -/
def isDecimalChar (c : Char) : Bool :=
  Text.isBlank c || isNumeralChar c || isExponentMark c || c == '-' || c == '+'

theorem isDecimalChar_of_readPlain?
    {cs : List Char} {d : Decimal} (h : readPlain? cs = some d) :
    ∀ c ∈ cs, isDecimalChar c = true := by
  obtain ⟨first, rest, rfl, hfirst, hrest⟩ := exists_of_readPlain? h
  rw [List.forall_mem_cons]
  refine ⟨?_, fun c hc => by simp [isDecimalChar, hrest c hc]⟩
  rcases hfirst with rfl | rfl | hfirst
  · rfl
  · rfl
  · simp [isDecimalChar, hfirst]

theorem isDecimalChar_of_readBelow?
    {limit n : Nat} {s : String} (h : readBelow? limit s = some n) :
    ∀ c ∈ s.toList, isDecimalChar c = true := by
  have hdigits {cs : List Char}
      (hread : (if (cs.isEmpty || !cs.all Char.isDigit) = true then none
        else if readDigits 0 cs < limit then some (readDigits 0 cs) else none) =
          some n) :
      ∀ c ∈ cs, isDecimalChar c = true := by
    intro c hc
    by_cases hdigit : c.isDigit = true
    · simp [isDecimalChar, isNumeralChar, isFiller, hdigit]
    · have hrefused : (cs.isEmpty || !cs.all Char.isDigit) = true := by
        rw [Bool.or_eq_true, Bool.not_eq_true', List.all_eq_false]
        exact .inr ⟨c, hc, hdigit⟩
      rw [if_pos hrefused] at hread
      cases hread
  unfold readBelow? at h
  dsimp only at h
  split at h
  · rename_i rest hplus
    rw [hplus, List.forall_mem_cons]
    exact ⟨rfl, hdigits h⟩
  · exact hdigits h

theorem isDecimalChar_of_readScientific?
    {cs : List Char} {d : Decimal} (h : readScientific? cs = some d) :
    ∀ c ∈ cs, isDecimalChar c = true := by
  have hsplit :=
    List.takeWhile_append_dropWhile (p := fun c => !isExponentMark c) (l := cs)
  unfold readScientific? at h
  split at h
  · cases h
  · rename_i mark exponent hmark
    obtain ⟨base, hbase, h⟩ := Option.bind_eq_some_iff.mp h
    have hmarked : isExponentMark mark = true := by
      simpa using Text.head?_dropWhile
        (show (cs.dropWhile fun c => !isExponentMark c).head? = some mark by
          rw [hmark]; rfl)
    have hexponent : ∀ c ∈ exponent, isDecimalChar c = true := by
      split at h
      · rename_i rest
        obtain ⟨n, hn, -⟩ := Option.bind_eq_some_iff.mp h
        rw [List.forall_mem_cons]
        exact ⟨rfl, by simpa using isDecimalChar_of_readBelow? hn⟩
      · obtain ⟨n, hn, -⟩ := Option.bind_eq_some_iff.mp h
        simpa using isDecimalChar_of_readBelow? hn
    rw [← hsplit, hmark, List.forall_mem_append, List.forall_mem_cons]
    exact ⟨isDecimalChar_of_readPlain? hbase,
      by simp [isDecimalChar, hmarked], hexponent⟩

theorem isDecimalChar_of_read?
    {s : String} {d : Decimal} (h : read? s = some d) :
    ∀ c ∈ s.toList, isDecimalChar c = true := by
  have htrimmed : ∀ c ∈ Text.trimChars s.toList, isDecimalChar c = true := by
    unfold read? at h
    dsimp only at h
    split at h
    · rename_i plain hplain
      exact isDecimalChar_of_readPlain? hplain
    · exact isDecimalChar_of_readScientific? h
  intro c hc
  cases hblank : Text.isBlank c with
  | true => simp [isDecimalChar, hblank]
  | false => exact htrimmed c (Text.mem_trimChars hc hblank)

end Decimal

/-- A hyphen stands behind other characters, none of which marks an
exponent. -/
def HyphenWithin (cs : List Char) : Prop :=
  ∃ before after, cs = before ++ '-' :: after ∧ before ≠ [] ∧
    ∀ c ∈ before, Decimal.isExponentMark c = false

namespace Decimal

theorem not_hyphenWithin_of_read?
    {s : String} {d : Decimal} (h : read? s = some d) :
    ¬ HyphenWithin (Text.trimChars s.toList) := by
  rintro ⟨before, after, hcs, hsome, hmarks⟩
  have hplain {rest : List Char} :
      readPlain? (before ++ '-' :: rest) = none := by
    cases hread : readPlain? (before ++ '-' :: rest) with
    | none => rfl
    | some other =>
        obtain ⟨first, behind, happend, -, hchars⟩ := exists_of_readPlain? hread
        obtain ⟨c, others, rfl⟩ := List.exists_cons_of_ne_nil hsome
        obtain ⟨-, rfl⟩ := List.cons.inj happend
        have hhyphen : isNumeralChar '-' = true := hchars '-' (by simp)
        cases hhyphen
  have hbase :
      (before ++ '-' :: after).takeWhile (fun c => !isExponentMark c) =
        before ++ '-' :: after.takeWhile fun c => !isExponentMark c := by
    rw [List.takeWhile_append_of_pos fun c hc => by simp [hmarks c hc]]
    rfl
  simp only [read?, hcs, hplain, readScientific?, hbase] at h
  split at h
  · cases h
  · cases h

end Decimal
end Number
end RecordRules
