import Mathlib.Data.List.Infix
import RecordRules.Proofs.CharacterRuns
import RecordRules.Template

/-!
# Placeholders are replaced in a single pass

A placeholder is recognised as it is written, and nothing else is taken for
one.  So a template is its plain texts with the values of its placeholders
between them, whatever these values look like; without a placeholder it stays
as it is.
-/

namespace RecordRules
namespace Template

theorem isBlank_of_isPathChar {c : Char} (h : isPathChar c = true) :
    Text.isBlank c = false := by
  simp only [isPathChar, Text.isAsciiAlphanumeric, Text.isAsciiLetter,
    Bool.or_eq_true, decide_eq_true_eq, beq_iff_eq] at h
  rcases h with (((hsmall | hlarge) | hdigit) | rfl) | rfl
  · have hcode : 97 ≤ c.toNat ∧ c.toNat ≤ 122 := hsmall
    exact Text.isBlank_of_visible (by omega)
  · have hcode : 65 ≤ c.toNat ∧ c.toNat ≤ 90 := hlarge
    exact Text.isBlank_of_visible (by omega)
  · exact Text.isBlank_of_isDigit hdigit
  · decide
  · decide

/-! ## Single placeholders -/

/-- A placeholder as it is written: a path in double braces, with blanks before
and behind it. -/
structure Placeholder where
  before : List Char
  path : List Char
  behind : List Char
  before_blank : ∀ c ∈ before, Text.isBlank c = true
  path_ne_nil : path ≠ []
  path_chars : ∀ c ∈ path, isPathChar c = true
  behind_blank : ∀ c ∈ behind, Text.isBlank c = true

namespace Placeholder

def chars (p : Placeholder) : List Char :=
  '\x7b' :: '\x7b' :: (p.before ++ (p.path ++ (p.behind ++ ['\x7d', '\x7d'])))

def name (p : Placeholder) : String := String.ofList p.path

end Placeholder

theorem placeholder?_chars (p : Placeholder) (rest : List Char) :
    placeholder? (p.chars ++ rest) = some (p.name, rest) := by
  obtain ⟨first, others, hpath⟩ := List.exists_cons_of_ne_nil p.path_ne_nil
  have hfirst : isPathChar first = true := p.path_chars first (by simp [hpath])
  have hclosed : ∀ c, (p.behind ++ '\x7d' :: '\x7d' :: rest).head? = some c →
      isPathChar c = false := by
    intro c hc
    cases hbehind : p.behind with
    | nil =>
        obtain rfl : '\x7d' = c := by simpa [hbehind] using hc
        decide
    | cons blank blanks =>
        obtain rfl : blank = c := by simpa [hbehind] using hc
        have hblank := p.behind_blank blank (by simp [hbehind])
        rw [← Bool.not_eq_true]
        intro hchar
        rw [isBlank_of_isPathChar hchar] at hblank
        cases hblank
  have hstart :
      Text.trimStart
          (p.before ++ (p.path ++ (p.behind ++ '\x7d' :: '\x7d' :: rest))) =
        p.path ++ (p.behind ++ '\x7d' :: '\x7d' :: rest) :=
    Text.trimStart_run p.before_blank fun c hc => by
      obtain rfl : first = c := by simpa [hpath] using hc
      exact isBlank_of_isPathChar hfirst
  have hend :
      Text.trimStart (p.behind ++ '\x7d' :: '\x7d' :: rest) =
        '\x7d' :: '\x7d' :: rest :=
    Text.trimStart_run p.behind_blank fun c hc => by
      obtain rfl : '\x7d' = c := by simpa using hc
      decide
  have hchars :
      p.chars ++ rest =
        '\x7b' :: '\x7b' ::
          (p.before ++ (p.path ++ (p.behind ++ '\x7d' :: '\x7d' :: rest))) := by
    simp [Placeholder.chars]
  rw [hchars]
  simp only [placeholder?, hstart, Text.takeWhile_run p.path_chars hclosed,
    Text.dropWhile_run p.path_chars hclosed, hend]
  simp only [hpath, Placeholder.name]

/-- What is recognised is a placeholder. -/
theorem exists_of_placeholder? {cs rest : List Char} {path : String}
    (h : placeholder? cs = some (path, rest)) :
    ∃ p : Placeholder, cs = p.chars ++ rest ∧ p.name = path := by
  unfold placeholder? at h
  split at h
  · rename_i inner
    dsimp only at h
    obtain ⟨before, hbefore, hinner⟩ := Text.exists_trimStart inner
    obtain ⟨behind, hbehind, hclosing⟩ :=
      Text.exists_trimStart ((Text.trimStart inner).dropWhile isPathChar)
    split at h
    · rename_i first others tail hpath hrest
      simp only [Option.some.injEq, Prod.mk.injEq] at h
      obtain ⟨rfl, rfl⟩ := h
      refine ⟨⟨before, (Text.trimStart inner).takeWhile isPathChar, behind,
        hbefore, by simp [hpath], fun c hc => List.mem_takeWhile_imp hc,
        hbehind⟩, ?_, by simp [Placeholder.name, hpath]⟩
      rw [hrest] at hclosing
      simp only [Placeholder.chars, List.cons_append, List.append_assoc,
        List.nil_append, List.cons.injEq, true_and]
      rw [← hclosing, List.takeWhile_append_dropWhile, ← hinner]
    · cases h
  · cases h

/-- Placeholders occur where one is recognised at the beginning of what is
left. -/
theorem forall_not_infix_iff {cs : List Char} :
    (∀ p : Placeholder, ¬ p.chars <:+: cs) ↔
      ∀ tail, tail <:+ cs → placeholder? tail = none := by
  constructor
  · intro hnone tail htail
    cases hread : placeholder? tail with
    | none => rfl
    | some found =>
        obtain ⟨p, rfl, -⟩ := exists_of_placeholder? hread
        exact absurd ((List.prefix_append _ _).isInfix.trans htail.isInfix)
          (hnone p)
  · rintro htails p ⟨before, behind, rfl⟩
    have hnone := htails (p.chars ++ behind)
      ⟨before, by rw [List.append_assoc]⟩
    rw [placeholder?_chars] at hnone
    cases hnone

/-! ## Whole templates -/

section Expand

variable {value : String → String}

theorem expand_of_none {c : Char} {rest : List Char}
    (h : placeholder? (c :: rest) = none) :
    expand value (c :: rest) = c :: expand value rest := by
  rw [expand]
  split
  · rename_i hsome
    rw [h] at hsome
    cases hsome
  · rfl

theorem expand_nil : expand value [] = [] := by
  rw [expand]
  rfl

/-- A placeholder is replaced by the value of its path, and the pass goes on
behind it. -/
theorem expand_placeholder (p : Placeholder) (rest : List Char) :
    expand value (p.chars ++ rest) =
      (value p.name).toList ++ expand value rest := by
  have hread := placeholder?_chars p rest
  rw [expand]
  split
  · rename_i hsome
    rw [hread] at hsome
    cases hsome
    rfl
  · rename_i hnone
    rw [hread] at hnone
    cases hnone

theorem expand_append {text : List Char} (h : '\x7b' ∉ text)
    (rest : List Char) :
    expand value (text ++ rest) = text ++ expand value rest := by
  induction text with
  | nil => rfl
  | cons c text ih =>
      rw [List.mem_cons, not_or] at h
      have hnone : placeholder? (c :: (text ++ rest)) = none := by
        unfold placeholder?
        split
        · rename_i hcs
          exact absurd (List.cons.inj hcs).1.symm h.1
        · rfl
      rw [List.cons_append, expand_of_none hnone, ih h.2, List.cons_append]

theorem expand_eq_self {cs : List Char}
    (h : ∀ p : Placeholder, ¬ p.chars <:+: cs) : expand value cs = cs := by
  rw [forall_not_infix_iff] at h
  induction cs with
  | nil => exact expand_nil
  | cons c rest ih =>
      have hnone : placeholder? (c :: rest) = none := h _ List.suffix_rfl
      rw [expand_of_none hnone,
        ih fun tail htail => h tail (htail.trans (List.suffix_cons c rest))]

/-- A template of a plain text and of placeholders that a plain text follows
each. -/
def written (first : List Char) (parts : List (Placeholder × List Char)) :
    List Char :=
  first ++ parts.flatMap fun part => part.1.chars ++ part.2

/-- The plain texts of a template, with the values of the paths between
them. -/
def filled (value : String → String) (first : List Char)
    (parts : List (Placeholder × List Char)) : List Char :=
  first ++ parts.flatMap fun part => (value part.1.name).toList ++ part.2

theorem expand_written
    {first : List Char} {parts : List (Placeholder × List Char)}
    (hfirst : '\x7b' ∉ first) (hparts : ∀ part ∈ parts, '\x7b' ∉ part.2) :
    expand value (written first parts) = filled value first parts := by
  rw [written, filled, expand_append hfirst]
  congr 1
  induction parts with
  | nil => exact expand_nil
  | cons part parts ih =>
      rw [List.forall_mem_cons] at hparts
      rw [List.flatMap_cons, List.flatMap_cons, List.append_assoc,
        expand_placeholder, expand_append hparts.1, ih hparts.2,
        List.append_assoc]

end Expand

/-- A template of plain texts and placeholders becomes these texts with the
texts of the fields between them, each as it is in the record; a template in
which no placeholder occurs stays as it is, whatever braces it has. -/
theorem resolve_in_one_pass (record : Record) :
    (∀ template first parts, template.toList = written first parts →
      '\x7b' ∉ first → (∀ part ∈ parts, '\x7b' ∉ part.2) →
      (resolve template record).toList =
        filled (fun path => (record.text path).getD "") first parts) ∧
    ∀ template : String,
      (∀ p : Placeholder, ¬ p.chars <:+: template.toList) →
      resolve template record = template := by
  constructor
  · intro template first parts htemplate hfirst hparts
    rw [resolve, String.toList_ofList, htemplate, expand_written hfirst hparts]
  · intro template hnone
    rw [resolve, expand_eq_self hnone, String.ofList_toList]

/-- A note whose subject looks like a placeholder. -/
def injected : Record :=
  .ofFields "Note" "n-1"
    [("Secret", .string "s3cret"), ("Subject", .string "\x7b\x7bSecret\x7d\x7d")]

/-- The value of the subject is not looked at again, and what is not quite a
placeholder is kept. -/
theorem resolve_in_one_pass_injected :
    (resolve "Re: \x7b\x7b Subject \x7d\x7d\x7d" injected).toList =
        "Re: \x7b\x7bSecret\x7d\x7d\x7d".toList ∧
      resolve "\x7b \x7bSubject\x7d\x7d" injected =
        "\x7b \x7bSubject\x7d\x7d" := by
  let subject : Placeholder :=
    ⟨[' '], "Subject".toList, [' '], List.all_eq_true.mp rfl, by decide,
      List.all_eq_true.mp rfl, List.all_eq_true.mp rfl⟩
  obtain ⟨hfills, hkeeps⟩ := resolve_in_one_pass injected
  constructor
  · rw [hfills _ "Re: ".toList [(subject, ['\x7d'])] (by decide) (by decide)
      (by decide)]
    decide +kernel
  · refine hkeeps _ (forall_not_infix_iff.mpr fun tail htail => ?_)
    rw [← List.mem_tails] at htail
    revert tail
    decide

end Template
end RecordRules
