import Mathlib.Data.List.TakeWhile
import RecordRules.Text.Blank
import RecordRules.Text.Digit

/-!
# Runs of characters

Blanks, digits and the characters of paths are classes of which no two that
follow each other in a pattern share a character.  So a scan takes exactly the
run that was written, up to the first character of another class.
-/

namespace RecordRules

namespace Text

variable {c : Char}

/-! ## Classes of characters -/

/-- Ranges of which no two overlap share no code point. -/
theorem inRanges_eq_false_of_apart
    {first second : List (Nat × Nat)}
    (hapart : ∀ r ∈ first, ∀ s ∈ second, r.2 < s.1 ∨ s.2 < r.1)
    {code : Nat} (h : inRanges first code = true) :
    inRanges second code = false := by
  simp only [inRanges, List.any_eq_true, Bool.and_eq_true, decide_eq_true_eq] at h
  obtain ⟨r, hr, hlow, hhigh⟩ := h
  rw [← Bool.not_eq_true]
  intro hsecond
  simp only [inRanges, List.any_eq_true, Bool.and_eq_true, decide_eq_true_eq] at hsecond
  obtain ⟨s, hs, hlow', hhigh'⟩ := hsecond
  rcases hapart r hr s hs with hless | hless <;> omega

theorem isBlank_of_visible (h : 33 ≤ c.toNat ∧ c.toNat ≤ 126) :
    isBlank c = false := by
  have hvisible : inRanges [(33, 126)] c.toNat = true := by simp [inRanges, h]
  exact inRanges_eq_false_of_apart (by decide) hvisible

theorem toNat_of_isDigit (h : c.isDigit = true) :
    48 ≤ c.toNat ∧ c.toNat ≤ 57 := by
  simpa [Char.isDigit, UInt32.le_iff_toNat_le] using h

theorem isBlank_of_isDigit (h : c.isDigit = true) : isBlank c = false := by
  have hrange := toNat_of_isDigit h
  exact isBlank_of_visible (by omega)

theorem isUnicodeDigit_of_isDigit (h : c.isDigit = true) :
    isUnicodeDigit c = true := by
  rw [isUnicodeDigit, h, Bool.true_or]

theorem isUnicodeDigit_of_isBlank (h : isBlank c = true) :
    isUnicodeDigit c = false := by
  have hascii : c.isDigit = false := by
    rw [← Bool.not_eq_true]
    intro hdigit
    rw [isBlank_of_isDigit hdigit] at h
    cases h
  rw [isUnicodeDigit, hascii, Bool.false_or]
  exact inRanges_eq_false_of_apart (by decide) h

/-! ## Scans -/

section Runs

variable {test : Char → Bool} {run rest : List Char}

theorem takeWhile_run
    (hrun : ∀ c ∈ run, test c = true)
    (hrest : ∀ c, rest.head? = some c → test c = false) :
    (run ++ rest).takeWhile test = run := by
  rw [List.takeWhile_append_of_pos hrun]
  cases rest with
  | nil => simp
  | cons c tail => simp [hrest c rfl]

theorem dropWhile_eq_self
    (hrest : ∀ c, rest.head? = some c → test c = false) :
    rest.dropWhile test = rest := by
  cases rest with
  | nil => rfl
  | cons c tail => simp [hrest c rfl]

theorem dropWhile_run
    (hrun : ∀ c ∈ run, test c = true)
    (hrest : ∀ c, rest.head? = some c → test c = false) :
    (run ++ rest).dropWhile test = rest := by
  rw [List.dropWhile_append_of_pos hrun, dropWhile_eq_self hrest]

theorem mem_dropWhile {c : Char} (hc : c ∈ rest) (h : test c = false) :
    c ∈ rest.dropWhile test := by
  rw [← List.takeWhile_append_dropWhile (p := test) (l := rest),
    List.mem_append] at hc
  refine hc.resolve_left fun htaken => ?_
  rw [List.mem_takeWhile_imp htaken] at h
  cases h

theorem head?_dropWhile {c : Char}
    (h : (rest.dropWhile test).head? = some c) : test c = false := by
  simpa [h] using List.head?_dropWhile_not test rest

end Runs

theorem trimStart_run {blanks rest : List Char}
    (hblanks : ∀ c ∈ blanks, isBlank c = true)
    (hrest : ∀ c, rest.head? = some c → isBlank c = false) :
    trimStart (blanks ++ rest) = rest :=
  dropWhile_run hblanks hrest

theorem exists_trimStart (cs : List Char) :
    ∃ blanks, (∀ c ∈ blanks, isBlank c = true) ∧
      cs = blanks ++ trimStart cs :=
  ⟨cs.takeWhile isBlank, fun _ hc => List.mem_takeWhile_imp hc,
    List.takeWhile_append_dropWhile.symm⟩

/-- Trimming drops blanks only. -/
theorem mem_trimChars {cs : List Char} (hc : c ∈ cs) (h : isBlank c = false) :
    c ∈ trimChars cs := by
  rw [trimChars, trimEnd, List.mem_reverse]
  refine mem_dropWhile ?_ h
  rw [List.mem_reverse]
  exact mem_dropWhile hc h

/-- A text without blanks at its ends is not trimmed. -/
theorem trimChars_eq_self_of_ends {cs : List Char}
    (hhead : ∀ c, cs.head? = some c → isBlank c = false)
    (hlast : ∀ c, cs.getLast? = some c → isBlank c = false) :
    trimChars cs = cs := by
  have hend : cs.reverse.dropWhile isBlank = cs.reverse :=
    dropWhile_eq_self (by simpa using hlast)
  rw [trimChars, trimStart, dropWhile_eq_self hhead, trimEnd, hend,
    List.reverse_reverse]

theorem trimChars_eq_self {cs : List Char} (h : ∀ c ∈ cs, isBlank c = false) :
    trimChars cs = cs :=
  trimChars_eq_self_of_ends (fun c hc => h c (List.mem_of_head? hc))
    fun c hc => h c (List.mem_of_getLast? hc)

theorem isBlank_of_head?_trimChars {cs : List Char}
    (hc : (trimChars cs).head? = some c) : isBlank c = false := by
  have hkept : trimChars cs <+: trimStart cs := by
    rw [← List.reverse_suffix, trimChars, trimEnd, List.reverse_reverse]
    exact List.dropWhile_suffix _
  have hhead : (trimStart cs).head? = some c := by
    obtain ⟨behind, hbehind⟩ := hkept
    rw [← hbehind, List.head?_append, hc, Option.some_or]
  exact head?_dropWhile hhead

theorem isBlank_of_getLast?_trimChars {cs : List Char}
    (hc : (trimChars cs).getLast? = some c) : isBlank c = false := by
  rw [trimChars, trimEnd, List.getLast?_reverse] at hc
  exact head?_dropWhile hc

@[simp] theorem trimChars_trimChars (cs : List Char) :
    trimChars (trimChars cs) = trimChars cs :=
  trimChars_eq_self_of_ends (fun _ => isBlank_of_head?_trimChars)
    fun _ => isBlank_of_getLast?_trimChars

end Text

end RecordRules
