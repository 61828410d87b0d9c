import RecordRules.Proofs.CharacterRuns
import RecordRules.Proofs.TimestampTexts

/-!
# Numbers of a fixed width

A number that is filled up with zeros to a width is scanned as that number,
whatever follows it, and so is the fraction of a second that is written in as
many digits as it needs.  No scanned fraction is a whole second.
-/

namespace RecordRules

namespace Number

variable {n width : Nat} {ds : List Char}

theorem digitValue_lt {c : Char} (h : c.isDigit = true) : digitValue c < 10 := by
  have hrange := Text.toNat_of_isDigit h
  unfold digitValue
  omega

/-- So many digits denote a number below that power of ten. -/
theorem readDigits_lt
    (hds : ∀ c ∈ ds, c.isDigit = true) (start : Nat) :
    readDigits start ds < (start + 1) * 10 ^ ds.length := by
  induction ds generalizing start with
  | nil => simp [readDigits]
  | cons c rest ih =>
      have hvalue := digitValue_lt (hds c List.mem_cons_self)
      have hrest :=
        ih (fun d hd => hds d (List.mem_cons_of_mem c hd))
          (10 * start + digitValue c)
      calc readDigits start (c :: rest)
          = readDigits (10 * start + digitValue c) rest := rfl
        _ < (10 * start + digitValue c + 1) * 10 ^ rest.length := hrest
        _ ≤ (start + 1) * 10 * 10 ^ rest.length :=
            Nat.mul_le_mul_right _ (by omega)
        _ = (start + 1) * 10 ^ (c :: rest).length := by
            rw [List.length_cons, Nat.pow_succ', Nat.mul_assoc]

theorem length_digits_le (hwidth : 0 < width) (h : n < 10 ^ width) :
    (digits n).length ≤ width := by
  induction n using digits.induct generalizing width with
  | case1 n hn =>
      rw [digits, if_pos hn]
      exact hwidth
  | case2 n hn ih =>
      obtain ⟨less, rfl⟩ := Nat.exists_eq_add_one_of_ne_zero hwidth.ne'
      have hless : 0 < less := by
        rcases Nat.eq_zero_or_pos less with rfl | hless
        · omega
        · exact hless
      have htens : n / 10 < 10 ^ less := by
        rw [Nat.pow_succ] at h
        exact Nat.div_lt_of_lt_mul (by rwa [Nat.mul_comm])
      rw [digits, if_neg hn, List.length_append]
      exact Nat.add_le_add_right (ih hless htens) 1

/-! ## Padding -/

theorem toList_padded (width n : Nat) :
    (padded width n).toList =
      List.replicate (width - (digits n).length) '0' ++ digits n :=
  String.toList_ofList

theorem isDigit_of_mem_padded {c : Char} (h : c ∈ (padded width n).toList) :
    c.isDigit = true := by
  rw [toList_padded, List.mem_append] at h
  rcases h with hzero | hdigit
  · rw [List.eq_of_mem_replicate hzero]
    rfl
  · exact isDigit_of_mem_digits hdigit

theorem length_padded (hwidth : 0 < width) (h : n < 10 ^ width) :
    (padded width n).toList.length = width := by
  have hlength := length_digits_le hwidth h
  rw [toList_padded, List.length_append, List.length_replicate]
  omega

theorem readDigits_replicate_append (zeros : Nat) (ds : List Char) :
    readDigits 0 (List.replicate zeros '0' ++ ds) = readDigits 0 ds := by
  induction zeros with
  | zero => rfl
  | succ zeros ih => exact ih

theorem readDigits_padded (width n : Nat) :
    readDigits 0 (padded width n).toList = n := by
  rw [toList_padded, readDigits_replicate_append, readDigits_digits]

end Number

open Number

namespace Time.Scan

variable {ds cs rest : List Char} {least most n width : Nat}

/-! ## Runs of digits -/

theorem length_le_byteCount (cs : List Char) : cs.length ≤ byteCount cs := by
  induction cs with
  | nil => exact Nat.le_refl 0
  | cons c rest ih =>
      have hsize := c.utf8Size_pos
      change rest.length + 1 ≤ c.utf8Size + byteCount rest
      omega

theorem length_leadingDigits_le (most : Nat) (cs : List Char) :
    (leadingDigits most cs).1.length ≤ most := by
  fun_induction leadingDigits most cs with
  | case1 => exact Nat.le_refl 0
  | case2 => exact Nat.zero_le _
  | case3 most c rest hdigit ds behind heq ih =>
      rw [heq] at ih
      exact Nat.succ_le_succ ih
  | case4 => exact Nat.zero_le _

theorem leadingDigits_run
    (hds : ∀ c ∈ ds, c.isDigit = true) (hlength : ds.length ≤ most)
    (hrest : ds.length < most →
      ∀ c, rest.head? = some c → c.isDigit = false) :
    leadingDigits most (ds ++ rest) = (ds, rest) := by
  induction ds generalizing most with
  | nil =>
      cases most with
      | zero => rfl
      | succ most =>
          cases rest with
          | nil => rfl
          | cons c tail =>
              simp [leadingDigits, hrest (Nat.succ_pos most) c rfl]
  | cons c tail ih =>
      obtain ⟨more, rfl⟩ : ∃ more, most = more + 1 :=
        Nat.exists_eq_add_one_of_ne_zero (by
          rw [List.length_cons] at hlength
          omega)
      rw [List.length_cons] at hlength hrest
      have htail : leadingDigits more (tail ++ rest) = (tail, rest) :=
        ih (fun d hd => hds d (List.mem_cons_of_mem c hd)) (by omega)
          fun hless => hrest (by omega)
      simp [leadingDigits, hds c List.mem_cons_self, htail]

/-- Digits that fit are read as the number that they denote. -/
theorem number_run
    (hds : ∀ c ∈ ds, c.isDigit = true)
    (hleast : least ≤ ds.length) (hmost : ds.length ≤ most)
    (hsmall : most ≤ 18)
    (hrest : ds.length < most →
      ∀ c, rest.head? = some c → c.isDigit = false) :
    number least most (ds ++ rest) = .ok (readDigits 0 ds, rest) := by
  have hcount : ¬ byteCount (ds ++ rest) < least := by
    have hbytes := length_le_byteCount (ds ++ rest)
    rw [List.length_append] at hbytes
    omega
  have hbound : readDigits 0 ds < twos 63 := by
    calc readDigits 0 ds
        < (0 + 1) * 10 ^ ds.length := readDigits_lt hds 0
      _ = 10 ^ ds.length := Nat.one_mul _
      _ ≤ 10 ^ 18 := Nat.pow_le_pow_right (by decide) (by omega)
      _ < twos 63 := by decide
  simp only [number, if_neg hcount, leadingDigits_run hds hmost hrest,
    if_neg (Nat.not_lt.mpr hleast), if_pos hbound]

theorem readDigits_of_number (h : number least most cs = .ok (n, rest)) :
    ∃ ds, cs = ds ++ rest ∧ (∀ c ∈ ds, c.isDigit = true) ∧
      ds.length ≤ most ∧ n = readDigits 0 ds := by
  obtain ⟨happend, hdigits⟩ := leadingDigits_append most cs
  have hlength := length_leadingDigits_le most cs
  unfold number at h
  split at h
  · cases h
  dsimp only at h
  split at h
  · cases h
  split at h
  · cases h
    exact ⟨_, happend.symm, hdigits, hlength, rfl⟩
  · cases h

/-! ## Padded numbers -/

theorem number_padded (hwidth : 0 < width) (hsmall : width ≤ 18)
    (h : n < 10 ^ width) (rest : List Char) :
    number width width ((padded width n).toList ++ rest) = .ok (n, rest) := by
  have hlength := length_padded hwidth h
  rw [number_run (fun c => isDigit_of_mem_padded) hlength.ge hlength.le hsmall
    (by omega), readDigits_padded]

theorem strictNumber_padded {low high : Nat}
    (hlow : low ≤ n) (hhigh : n ≤ high) (hsmall : high < 100)
    (rest : List Char) :
    strictNumber low high ((padded 2 n).toList ++ rest) = .ok (n, rest) := by
  have hnumber : number 2 2 ((padded 2 n).toList ++ rest) = .ok (n, rest) :=
    number_padded (by decide) (by decide) (by omega) rest
  simp [strictNumber, hnumber, bounded, hlow, hhigh]

/-! ## Fractions of a second -/

theorem fraction_padded
    (hwidth : 0 < width) (hsmall : width ≤ 9) (h : n < 10 ^ width)
    (hrest : ∀ c, rest.head? = some c → c.isDigit = false) :
    fraction ((padded width n).toList ++ rest) =
      .ok (n * tens (9 - width), rest) := by
  have hlength := length_padded hwidth h
  have hnumber :
      number 1 9 ((padded width n).toList ++ rest) = .ok (n, rest) := by
    rw [number_run (fun c => isDigit_of_mem_padded) (by omega) (by omega)
      (by decide) (fun _ => hrest), readDigits_padded]
  have hdrop : rest.dropWhile Char.isDigit = rest :=
    Text.dropWhile_eq_self hrest
  simp [fraction, hnumber, hdrop, hlength]

/-- The digits of a fraction that are written give it back. -/
theorem optionalFraction_fractionText
    {nanos : Nat} (h : nanos < Instant.nanosPerSecond) (rest : List Char) :
    optionalFraction ((Instant.fractionText nanos).toList ++ '+' :: rest) =
      .ok (nanos, '+' :: rest) := by
  have hplus : ∀ c, ('+' :: rest).head? = some c → c.isDigit = false := by
    rintro c ⟨⟩
    rfl
  have hpoint {width n : Nat} (hwidth : 0 < width) (hsmall : width ≤ 9)
      (hn : n < 10 ^ width) (hvalue : n * tens (9 - width) = nanos) :
      optionalFraction (("." ++ padded width n).toList ++ '+' :: rest) =
        .ok (nanos, '+' :: rest) := by
    have hread := fraction_padded hwidth hsmall hn hplus
    rw [hvalue] at hread
    simpa [optionalFraction] using hread
  unfold Instant.nanosPerSecond at h
  unfold Instant.fractionText
  split
  · rename_i hzero
    rw [hzero]
    rfl
  split
  · rename_i hmillis
    refine hpoint (by decide) (by decide) (by omega) ?_
    change nanos / 1000000 * 1000000 = nanos
    omega
  split
  · rename_i hmicros
    refine hpoint (by decide) (by decide) (by omega) ?_
    change nanos / 1000 * 1000 = nanos
    omega
  · exact hpoint (by decide) (by decide) h (Nat.mul_one nanos)

theorem fraction_lt (h : fraction cs = .ok (n, rest)) :
    n < Instant.nanosPerSecond := by
  obtain ⟨⟨read, behind⟩, hnumber, h⟩ := Json.bind_eq_ok h
  cases h
  obtain ⟨ds, hcs, hdigits, hlength, rfl⟩ := readDigits_of_number hnumber
  have hcount : cs.length - behind.length = ds.length := by
    rw [hcs, List.length_append, Nat.add_sub_cancel]
  rw [hcount]
  calc readDigits 0 ds * tens (9 - ds.length)
      < 10 ^ ds.length * 10 ^ (9 - ds.length) :=
        Nat.mul_lt_mul_of_pos_right (by simpa using readDigits_lt hdigits 0)
          (Nat.pow_pos (by decide))
    _ = Instant.nanosPerSecond := by
        rw [← Nat.pow_add, Nat.add_sub_cancel' hlength]
        rfl

theorem optionalFraction_lt (h : optionalFraction cs = .ok (n, rest)) :
    n < Instant.nanosPerSecond := by
  unfold optionalFraction at h
  split at h
  · exact fraction_lt h
  · cases h
    decide

end Time.Scan

end RecordRules
