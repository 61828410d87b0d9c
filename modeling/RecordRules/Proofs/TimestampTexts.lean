import RecordRules.Proofs.DecimalValues
import RecordRules.Proofs.StructureDecoding
import RecordRules.Time.Timestamp

/-!
# Texts of timestamps

Every form of a timestamp begins with a year and a hyphen.  No decimal does, so
no text is both a decimal and a timestamp.
-/

namespace RecordRules

open Number
open Json (bind_eq_ok)

namespace Time

variable {cs rest : List Char}

/-! ## Years -/

namespace Scan

theorem leadingDigits_append (most : Nat) (cs : List Char) :
    (leadingDigits most cs).1 ++ (leadingDigits most cs).2 = cs ∧
      ∀ c ∈ (leadingDigits most cs).1, c.isDigit = true := by
  fun_induction leadingDigits most cs with
  | case1 cs => simp
  | case2 => simp
  | case3 most c rest hdigit ds behind heq ih =>
      rw [heq] at ih
      obtain ⟨happend, hdigits⟩ := ih
      exact ⟨congrArg (c :: ·) happend,
        List.forall_mem_cons.mpr ⟨hdigit, hdigits⟩⟩
  | case4 => simp

/-- A number is read from the digits before what follows it. -/
theorem number_eq_ok
    {least most n : Nat} (h : number least most cs = .ok (n, rest)) :
    ∃ ds, cs = ds ++ rest ∧ (∀ c ∈ ds, c.isDigit = true) ∧
      least ≤ ds.length := by
  obtain ⟨happend, hdigits⟩ := leadingDigits_append most cs
  unfold number at h
  split at h
  · cases h
  dsimp only at h
  split at h
  · cases h
  rename_i hleast
  split at h
  · cases h
    exact ⟨_, happend.symm, hdigits, by omega⟩
  · cases h

theorem mark_eq_ok {c : Char} (h : mark c cs = .ok rest) : cs = c :: rest := by
  unfold mark at h
  split at h
  · cases h
  split at h
  · rename_i heq
    cases h
    rw [heq]
  · cases h

theorem mark_cons (c : Char) (rest : List Char) :
    mark c (c :: rest) = .ok rest :=
  if_pos rfl

/-- The characters that a year may be read from. -/
def isYearChar (c : Char) : Bool :=
  Text.isBlank c || c == '-' || c == '+' || c.isDigit

/-- A year is read from blanks, a sign and digits before what follows it. -/
theorem looseYear_eq_ok {year : Int} (h : looseYear cs = .ok (year, rest)) :
    ∃ before, cs = before ++ rest ∧ before ≠ [] ∧
      ∀ c ∈ before, isYearChar c = true := by
  have hdigits {start : List Char} {most n : Nat} {y : Int} {behind : List Char}
      (hnumber : number 1 most start = .ok (n, behind))
      (hyear : (if isInt32 y then pure (y, behind) else throw .outOfRange :
        Except TimeFault (Int × List Char)) = .ok (year, rest)) :
      ∃ ds, start = ds ++ rest ∧ ds ≠ [] ∧
        ∀ c ∈ ds, isYearChar c = true := by
    split at hyear <;> cases hyear
    obtain ⟨ds, hstart, hds, hlength⟩ := number_eq_ok hnumber
    exact ⟨ds, hstart, List.ne_nil_of_length_pos hlength,
      fun c hc => by simp [isYearChar, hds c hc]⟩
  obtain ⟨before, htrimmed, hsome, hbefore⟩ :
      ∃ before, Text.trimStart cs = before ++ rest ∧ before ≠ [] ∧
        ∀ c ∈ before, isYearChar c = true := by
    unfold looseYear at h
    split at h
    · rename_i behindSign heq
      obtain ⟨⟨n, behind⟩, hnumber, h⟩ := bind_eq_ok h
      simp only [pure_bind] at h
      obtain ⟨ds, hstart, -, hds⟩ := hdigits hnumber h
      exact ⟨'-' :: ds, by rw [heq, hstart]; rfl, List.cons_ne_nil _ _,
        List.forall_mem_cons.mpr ⟨rfl, hds⟩⟩
    · rename_i behindSign heq
      obtain ⟨⟨n, behind⟩, hnumber, h⟩ := bind_eq_ok h
      simp only [pure_bind] at h
      obtain ⟨ds, hstart, -, hds⟩ := hdigits hnumber h
      exact ⟨'+' :: ds, by rw [heq, hstart]; rfl, List.cons_ne_nil _ _,
        List.forall_mem_cons.mpr ⟨rfl, hds⟩⟩
    · obtain ⟨⟨n, behind⟩, hnumber, h⟩ := bind_eq_ok h
      simp only [pure_bind] at h
      exact hdigits hnumber h
  obtain ⟨blanks, hblanks, hcs⟩ := Text.exists_trimStart cs
  refine ⟨blanks ++ before, ?_, List.append_ne_nil_of_right_ne_nil _ hsome, ?_⟩
  · rw [hcs, htrimmed, List.append_assoc]
  · rw [List.forall_mem_append]
    exact ⟨fun c hc => by simp [isYearChar, hblanks c hc], hbefore⟩

end Scan

/-- Some characters, none of which marks an exponent, stand before the rest. -/
def BeginsPlain (cs rest : List Char) : Prop :=
  ∃ before, cs = before ++ rest ∧ before ≠ [] ∧
    ∀ c ∈ before, Decimal.isExponentMark c = false

namespace BeginsPlain

/-- No character that passes a test which both marks of an exponent fail is
one of them. -/
theorem isExponentMark_eq_false
    {c : Char} {test : Char → Bool} (hc : test c = true)
    (hsmall : test 'e' = false) (hlarge : test 'E' = false) :
    Decimal.isExponentMark c = false := by
  rw [← Bool.not_eq_true]
  intro hmark
  rw [Decimal.isExponentMark, Bool.or_eq_true, beq_iff_eq, beq_iff_eq] at hmark
  rcases hmark with rfl | rfl
  · rw [hsmall] at hc
    cases hc
  · rw [hlarge] at hc
    cases hc

theorem of_number
    {least most n : Nat} (hleast : 0 < least)
    (h : Scan.number least most cs = .ok (n, rest)) : BeginsPlain cs rest := by
  obtain ⟨ds, hcs, hdigits, hlength⟩ := Scan.number_eq_ok h
  exact ⟨ds, hcs, List.ne_nil_of_length_pos (hleast.trans_le hlength),
    fun c hc => isExponentMark_eq_false (hdigits c hc) rfl rfl⟩

theorem of_looseYear {year : Int}
    (h : Scan.looseYear cs = .ok (year, rest)) : BeginsPlain cs rest := by
  obtain ⟨before, hcs, hsome, hyear⟩ := Scan.looseYear_eq_ok h
  exact ⟨before, hcs, hsome,
    fun c hc => isExponentMark_eq_false (hyear c hc) rfl rfl⟩

theorem hyphenWithin {behind : List Char} (h : BeginsPlain cs rest)
    (hmark : Scan.mark '-' rest = .ok behind) : HyphenWithin cs := by
  obtain ⟨before, hcs, hsome, hmarks⟩ := h
  rw [Scan.mark_eq_ok hmark] at hcs
  exact ⟨before, behind, hcs, hsome, hmarks⟩

end BeginsPlain

/-! ## Forms -/

theorem hyphenWithin_of_readRfc3339
    {instant : Instant} (h : readRfc3339 cs = .ok instant) :
    HyphenWithin cs := by
  obtain ⟨⟨year, rest⟩, hyear, h⟩ := bind_eq_ok h
  obtain ⟨behind, hmark, -⟩ := bind_eq_ok h
  exact (BeginsPlain.of_number (by decide) hyear).hyphenWithin hmark

theorem hyphenWithin_of_readLooseDate
    {date : Date} (h : readLooseDate cs = .ok (date, rest)) :
    HyphenWithin cs := by
  obtain ⟨⟨year, behindYear⟩, hyear, h⟩ := bind_eq_ok h
  obtain ⟨behind, hmark, -⟩ := bind_eq_ok h
  exact (BeginsPlain.of_looseYear hyear).hyphenWithin hmark

/-- Whatever is read behind its date, the text has a hyphen within. -/
theorem hyphenWithin_of_bind
    {α : Type} {next : Date × List Char → Except TimeFault α} {a : α}
    (h : (readLooseDate cs >>= next) = .ok a) : HyphenWithin cs := by
  obtain ⟨⟨date, rest⟩, hdate, -⟩ := bind_eq_ok h
  exact hyphenWithin_of_readLooseDate hdate

theorem exists_form_of_readTimestamp
    {s : String} {instant : Instant} (h : readTimestamp s = some instant) :
    ∃ form ∈ literalForms, form (Text.trimChars s.toList) = .ok instant := by
  obtain ⟨form, hform, hread⟩ := List.exists_of_findSome?_eq_some h
  refine ⟨form, hform, ?_⟩
  cases hresult : form (Text.trimChars s.toList) with
  | error fault => simp [hresult, Except.toOption] at hread
  | ok other =>
      simp only [hresult, Except.toOption, Option.some.injEq] at hread
      rw [hread]

theorem hyphenWithin_of_readTimestamp
    {s : String} {instant : Instant} (h : readTimestamp s = some instant) :
    HyphenWithin (Text.trimChars s.toList) := by
  obtain ⟨form, hform, hok⟩ := exists_form_of_readTimestamp h
  simp only [literalForms, List.mem_cons, List.not_mem_nil, or_false] at hform
  rcases hform with rfl | rfl | rfl | rfl | rfl
  · exact hyphenWithin_of_readRfc3339 hok
  · exact hyphenWithin_of_bind hok
  · exact hyphenWithin_of_bind hok
  · exact hyphenWithin_of_bind hok
  · exact hyphenWithin_of_bind hok

/-- No decimal is a timestamp. -/
theorem readTimestamp_of_decimal
    {s : String} {d : Decimal} (h : Decimal.read? s = some d) :
    readTimestamp s = none := by
  cases hread : readTimestamp s with
  | none => rfl
  | some instant =>
      exact absurd (hyphenWithin_of_readTimestamp hread)
        (Decimal.not_hyphenWithin_of_read? h)

end Time
end RecordRules
