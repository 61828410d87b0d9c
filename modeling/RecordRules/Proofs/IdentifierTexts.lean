import RecordRules.Proofs.CharacterRuns
import RecordRules.Proofs.FieldNames
import RecordRules.Uuid

/-!
# Identifiers are read as they are written

An identifier is read from four notations, its digits in either case, and from
no other text.  The hyphens that writing puts between the groups are the ones
that reading takes away, and no digits begin the name that may stand before
them.
-/

namespace RecordRules.Uuid

variable {id : Uuid} {c : Char} {cs ds : List Char}

/-! ## Digits -/

theorem toNat_hexDigit (d : Fin 16) :
    (Text.hexDigit d.val).toNat = if d.val < 10 then 48 + d.val else 87 + d.val := by
  revert d
  decide

/-- A hexadecimal digit is read in either case. -/
theorem digit?_eq_some_iff {d : Fin 16} :
    digit? c = some d ↔ Text.asciiLowerChar c = Text.hexDigit d.val := by
  have hzero : ('0' ≤ c ∧ c ≤ '9') ↔ 48 ≤ c.toNat ∧ c.toNat ≤ 57 := Iff.rfl
  have hsmall : ('a' ≤ c ∧ c ≤ 'f') ↔ 97 ≤ c.toNat ∧ c.toNat ≤ 102 := Iff.rfl
  have hcapital : ('A' ≤ c ∧ c ≤ 'F') ↔ 65 ≤ c.toNat ∧ c.toNat ≤ 70 := Iff.rfl
  have hd := d.isLt
  rw [← Char.toNat_inj, Text.toNat_asciiLowerChar, toNat_hexDigit, digit?,
    Text.hexValue?]
  simp only [hzero, hsmall, hcapital]
  split_ifs <;> simp [Fin.ext_iff] <;> omega

theorem mapM_digit?_eq_some_iff {ds : List (Fin 16)} :
    cs.mapM digit? = some ds ↔
      cs.map Text.asciiLowerChar = ds.map fun d => Text.hexDigit d.val := by
  induction cs generalizing ds with
  | nil => cases ds <;> simp
  | cons c rest ih =>
      cases ds <;>
        simp [List.mapM_cons, Option.bind_eq_some_iff, ih, digit?_eq_some_iff]

/-- The characters are the digits of the identifier, each in either case. -/
def Spells (id : Uuid) (cs : List Char) : Prop :=
  cs.map Text.asciiLowerChar = id.digitChars

theorem length_digitChars (id : Uuid) : id.digitChars.length = 32 := by
  rw [digitChars, List.length_map, id.length_digits]

theorem Spells.length_eq (h : id.Spells cs) : cs.length = 32 := by
  rw [← List.length_map, h, length_digitChars]

theorem ofDigits?_eq_some_iff : ofDigits? cs = some id ↔ id.Spells cs := by
  simp only [ofDigits?, Option.bind_eq_some_iff, mapM_digit?_eq_some_iff]
  constructor
  · rintro ⟨ds, hread, hid⟩
    split at hid
    · obtain rfl := Option.some.inj hid
      exact hread
    · cases hid
  · intro hspells
    exact ⟨id.digits, hspells, dif_pos id.length_digits⟩

theorem spells_digitChars (id : Uuid) : id.Spells id.digitChars := by
  have hlower : ∀ d : Fin 16,
      Text.asciiLowerChar (Text.hexDigit d.val) = Text.hexDigit d.val := by
    decide
  simp [Spells, digitChars, hlower]

/-! ## Groups -/

/-- How many digits there are in groups of the given lengths. -/
def total (sizes : List Nat) : Nat := sizes.foldr (· + ·) 0

theorem total_cons (size : Nat) (sizes : List Nat) :
    total (size :: sizes) = size + total sizes := rfl

/-- Every hyphen between two groups adds one character. -/
theorem length_group
    (size : Nat) (sizes : List Nat) {cs : List Char}
    (hlength : cs.length = total (size :: sizes)) :
    (group (size :: sizes) cs).length = cs.length + sizes.length := by
  induction sizes generalizing size cs with
  | nil => rfl
  | cons next rest ih =>
      rw [total_cons] at hlength
      have hdrop : (cs.drop size).length = total (next :: rest) := by
        rw [List.length_drop, hlength, Nat.add_sub_cancel_left]
      have htake : (cs.take size).length = size :=
        List.length_take_of_le (by omega)
      simp only [group, List.length_append, List.length_cons, ih next hdrop,
        htake]
      omega

theorem ungroup_group
    (size : Nat) (sizes : List Nat) {cs : List Char}
    (hlength : cs.length = total (size :: sizes)) :
    ungroup (size :: sizes) (group (size :: sizes) cs) = some cs := by
  induction sizes generalizing size cs with
  | nil =>
      have hsize : cs.length = size := hlength
      exact if_pos hsize
  | cons next rest ih =>
      rw [total_cons] at hlength
      have hdrop : (cs.drop size).length = total (next :: rest) := by
        rw [List.length_drop, hlength, Nat.add_sub_cancel_left]
      have htake : (cs.take size).length = size :=
        List.length_take_of_le (by omega)
      simp only [group, ungroup, List.drop_left' htake, List.take_left' htake,
        ih next hdrop, Option.map_some, List.take_append_drop]

theorem group_of_ungroup
    (size : Nat) (sizes : List Nat)
    (h : ungroup (size :: sizes) cs = some ds) :
    group (size :: sizes) ds = cs := by
  induction sizes generalizing size cs ds with
  | nil =>
      simp only [ungroup, Option.ite_none_right_eq_some,
        Option.some.injEq] at h
      exact h.2.symm
  | cons next rest ih =>
      simp only [ungroup] at h
      split at h
      · rename_i behind hdrop
        obtain ⟨tail, htail, rfl⟩ := Option.map_eq_some_iff.mp h
        have htake : (cs.take size).length = size := by
          refine List.length_take_of_le (Nat.le_of_lt ?_)
          rw [← List.drop_eq_nil_iff.not.trans Nat.not_le, hdrop]
          exact List.cons_ne_nil _ _
        simp only [group, List.take_left' htake, List.drop_left' htake,
          ih next htail, ← hdrop, List.take_append_drop]
      · cases h

theorem Spells.length_group (h : id.Spells ds) :
    (group groupSizes ds).length = 36 := by
  have hsum : ds.length = total groupSizes := h.length_eq
  rw [groupSizes, Uuid.length_group _ _ hsum, hsum]
  rfl

theorem ofHyphenated?_eq_some_iff :
    ofHyphenated? cs = some id ↔
      ∃ ds, id.Spells ds ∧ cs = group groupSizes ds := by
  simp only [ofHyphenated?, Option.ite_none_right_eq_some,
    Option.bind_eq_some_iff, ofDigits?_eq_some_iff]
  constructor
  · rintro ⟨-, ds, hungroup, hspells⟩
    exact ⟨ds, hspells, (group_of_ungroup _ _ hungroup).symm⟩
  · rintro ⟨ds, hspells, rfl⟩
    exact ⟨hspells.length_group, ds, ungroup_group _ _ hspells.length_eq,
      hspells⟩

/-! ## Braces and the name -/

theorem withoutBraces_braced (cs : List Char) :
    withoutBraces ('\x7b' :: (cs ++ ['\x7d'])) = cs := by
  have hlast : ('\x7b' :: (cs ++ ['\x7d'])).getLast? = some '\x7d' := by
    rw [← List.cons_append, List.getLast?_concat]
  rw [withoutBraces, if_pos ⟨rfl, hlast, by simp⟩, List.tail_cons,
    List.dropLast_concat]

theorem withoutBraces_eq_self_or (cs : List Char) :
    withoutBraces cs = cs ∨ cs = '\x7b' :: (withoutBraces cs ++ ['\x7d']) := by
  unfold withoutBraces
  split
  · rename_i hbraces
    obtain ⟨hhead, hlast, htwo⟩ := hbraces
    obtain ⟨rest, rfl⟩ := List.head?_eq_some_iff.mp hhead
    obtain ⟨front, hfront⟩ := List.getLast?_eq_some_iff.mp hlast
    cases front with
    | nil => simp [hfront] at htwo
    | cons first inner =>
        rw [List.cons_append, List.cons.injEq] at hfront
        rw [List.tail_cons, hfront.2, List.dropLast_concat]
        exact .inr rfl
  · exact .inl rfl

theorem length_urnStart : urnStart.length = 9 := by decide

theorem withoutName_append {name : List Char}
    (hname : name.map Text.asciiLowerChar = urnStart) (cs : List Char) :
    withoutName (name ++ cs) = cs := by
  have hlength : name.length = 9 := by
    rw [← List.length_map, hname, length_urnStart]
  rw [withoutName, List.take_left' hlength, if_pos hname,
    List.drop_left' hlength]

theorem withoutName_eq_self_or (cs : List Char) :
    withoutName cs = cs ∨
      ∃ name, name.map Text.asciiLowerChar = urnStart ∧
        cs = name ++ withoutName cs := by
  unfold withoutName
  split
  · rename_i hname
    exact .inr ⟨cs.take 9, hname, (List.take_append_drop 9 cs).symm⟩
  · exact .inl rfl

/-- No hexadecimal digit begins the name before an identifier. -/
theorem Spells.withoutName_group (h : id.Spells ds) :
    withoutName (group groupSizes ds) = group groupSizes ds := by
  have hlength := h.length_eq
  cases ds with
  | nil => cases hlength
  | cons c rest =>
      have hfirst : ∀ d : Fin 16, Text.hexDigit d.val ≠ 'u' := by decide
      have hurn : urnStart = 'u' :: urnStart.tail := by decide
      refine if_neg fun hname => ?_
      rw [hurn] at hname
      have hu : Text.asciiLowerChar c = 'u' := (List.cons.inj hname).1
      have hmem : Text.asciiLowerChar c ∈ id.digitChars := by
        rw [← h]
        exact List.mem_cons_self
      obtain ⟨d, -, hd⟩ := List.mem_map.mp hmem
      exact hfirst d (hd.trans hu)

/-! ## Notations -/

/-- The notations of an identifier: its digits alone, in groups with hyphens
between them, and the groups in braces or behind the name, which like the
digits may be in either case. -/
inductive Writes (id : Uuid) : List Char → Prop where
  | plain {ds : List Char} : id.Spells ds → Writes id ds
  | hyphenated {ds : List Char} :
      id.Spells ds → Writes id (group groupSizes ds)
  | braced {ds : List Char} :
      id.Spells ds → Writes id ('\x7b' :: (group groupSizes ds ++ ['\x7d']))
  | named {name ds : List Char} :
      name.map Text.asciiLowerChar = urnStart → id.Spells ds →
        Writes id (name ++ group groupSizes ds)

theorem read?_eq_some_iff {s : String} :
    read? s = some id ↔ id.Writes s.toList := by
  simp only [read?]
  constructor
  · intro hread
    split at hread
    · exact .plain (ofDigits?_eq_some_iff.mp hread)
    split at hread
    · rename_i hlength
      obtain ⟨ds, hspells, hcore⟩ := ofHyphenated?_eq_some_iff.mp hread
      rcases withoutBraces_eq_self_or s.toList with hself | hbraces
      · -- without braces there are two characters too many
        rw [← hself, hcore, hspells.length_group] at hlength
        cases hlength
      · rw [hbraces, hcore]
        exact .braced hspells
    · obtain ⟨ds, hspells, hcore⟩ := ofHyphenated?_eq_some_iff.mp hread
      rcases withoutName_eq_self_or s.toList with hself | ⟨name, hname, hs⟩
      · rw [← hself, hcore]
        exact .hyphenated hspells
      · rw [hs, hcore]
        exact .named hname hspells
  · intro hwrites
    generalize s.toList = cs at hwrites
    cases hwrites with
    | plain hspells =>
        rw [if_pos hspells.length_eq]
        exact ofDigits?_eq_some_iff.mpr hspells
    | hyphenated hspells =>
        have hlength := hspells.length_group
        rw [if_neg (by omega), if_neg (by omega), hspells.withoutName_group]
        exact ofHyphenated?_eq_some_iff.mpr ⟨_, hspells, rfl⟩
    | @braced ds hspells =>
        have hlength :
            ('\x7b' :: (group groupSizes ds ++ ['\x7d'])).length = 38 := by
          simp [hspells.length_group]
        rw [if_neg (by omega), if_pos hlength, withoutBraces_braced]
        exact ofHyphenated?_eq_some_iff.mpr ⟨_, hspells, rfl⟩
    | @named name ds hname hspells =>
        have hlength : (name ++ group groupSizes ds).length = 45 := by
          rw [List.length_append, hspells.length_group, ← List.length_map,
            hname, length_urnStart]
        rw [if_neg (by omega), if_neg (by omega), withoutName_append hname]
        exact ofHyphenated?_eq_some_iff.mpr ⟨_, hspells, rfl⟩

theorem read?_eq_none_iff {s : String} :
    read? s = none ↔ ∀ id : Uuid, ¬ id.Writes s.toList := by
  simp only [Option.eq_none_iff_forall_ne_some, ne_eq, read?_eq_some_iff]

/-! ## Texts -/

theorem writes_text (id : Uuid) : id.Writes id.text.toList := by
  rw [text, String.toList_ofList]
  exact .hyphenated id.spells_digitChars

theorem read?_text (id : Uuid) : read? id.text = some id :=
  read?_eq_some_iff.mpr id.writes_text

theorem text_ne_empty (id : Uuid) : id.text ≠ "" := by
  intro hempty
  have hread := id.read?_text
  rw [hempty] at hread
  cases hread

theorem isBlank_of_mem_group (size : Nat) (sizes : List Nat)
    (hds : ∀ c ∈ ds, Text.isBlank c = false) :
    ∀ c ∈ group (size :: sizes) ds, Text.isBlank c = false := by
  induction sizes generalizing size ds with
  | nil => exact hds
  | cons next rest ih =>
      intro c hc
      simp only [group, List.mem_append, List.mem_cons] at hc
      rcases hc with htaken | rfl | hrest
      · exact hds c (List.mem_of_mem_take htaken)
      · decide
      · exact ih next (fun c hdropped => hds c (List.mem_of_mem_drop hdropped)) c
          hrest

theorem trim_text (id : Uuid) : Text.trim id.text = id.text := by
  have hdigit : ∀ d : Fin 16, Text.isBlank (Text.hexDigit d.val) = false := by
    decide
  rw [Text.trim, text, String.toList_ofList, Text.trimChars_eq_self]
  refine isBlank_of_mem_group _ _ fun c hc => ?_
  obtain ⟨d, -, rfl⟩ := List.mem_map.mp hc
  exact hdigit d

end RecordRules.Uuid
