import RecordRules.Proofs.CalendarDays
import RecordRules.Proofs.ComparedTexts
import RecordRules.Proofs.LiteralWrites
import RecordRules.Proofs.PaddedNumbers

/-!
# Stored timestamps

A timestamp literal is stored as the text of its instant, in universal time.
RFC 3339 has years of four digits, and the forms that have others have no
offset.  So the text is read back as the instant if its year has four digits;
otherwise the text is no timestamp at all.
-/

namespace RecordRules

open Json (bind_eq_ok)
open Number (padded)

namespace Time

variable {cs rest : List Char} {x : Instant}

namespace Instant

/-- The instant is represented, and leap seconds end a minute. -/
structure Proper (x : Instant) : Prop where
  inRange : x.inRange = true
  nanos_lt : x.nanos < 2 * nanosPerSecond
  leap : nanosPerSecond ≤ x.nanos → x.secondOfDay % 60 = 59

/-- The year of the instant is one of those that RFC 3339 writes. -/
def HasShortYear (x : Instant) : Prop :=
  0 ≤ x.date.year ∧ x.date.year ≤ 9999

instance (x : Instant) : Decidable x.HasShortYear :=
  inferInstanceAs (Decidable (_ ∧ _))

end Instant

/-! ## What is read -/

theorem Scan.offset_emod
    {colon : List Char → Except TimeFault (List Char)} {offset : Int}
    (h : Scan.offset colon cs = .ok (offset, rest)) : offset % 60 = 0 := by
  unfold Scan.offset at h
  extract_lets signed at h
  have hsigned {negative : Bool} {behind : List Char}
      (h : signed negative behind = .ok (offset, rest)) : offset % 60 = 0 := by
    obtain ⟨⟨hours, behindHours⟩, -, h⟩ := bind_eq_ok h
    obtain ⟨behindColon, -, h⟩ := bind_eq_ok h
    obtain ⟨⟨minutes, behindMinutes⟩, -, h⟩ := bind_eq_ok h
    dsimp only at h
    split at h
    · cases h
    · cases h
      split <;> omega
  split at h
  · cases h
  split at h
  · cases h
    rfl
  split at h
  · exact hsigned h
  split at h
  · exact hsigned h
  · cases h

/-- A reading with a fraction of a second and an offset of whole minutes is of
a proper instant. -/
theorem Reading.proper_of_instant
    {reading : Reading} {offset : Int}
    (hnanos : reading.nanos < Instant.nanosPerSecond)
    (hoffset : offset % 60 = 0) (h : reading.instant offset = .ok x) :
    x.Proper := by
  unfold Reading.instant at h
  split at h
  · cases h
  split at h
  · cases h
  dsimp only at h
  -- first whether the second is a leap second, then whether it is represented
  split at h
  · split at h
    · rename_i hrange
      cases h
      refine ⟨hrange, ?_, fun _ => ?_⟩
      · dsimp only [Instant.ofDate]
        omega
      · dsimp only [Instant.secondOfDay, Instant.ofDate]
        omega
    · cases h
  · split at h
    · rename_i hrange
      cases h
      refine ⟨hrange, ?_, fun hleap => ?_⟩
      · dsimp only [Instant.ofDate]
        omega
      · exact absurd hnanos (Nat.not_lt.mpr hleap)
    · cases h

theorem Reading.proper_of_whole
    {reading : Reading} (hnanos : reading.nanos = 0)
    (h : reading.instant 0 = .ok x) : x.Proper :=
  proper_of_instant (by rw [hnanos]; decide) rfl h

theorem proper_of_readRfc3339 (h : readRfc3339 cs = .ok x) : x.Proper := by
  obtain ⟨⟨year, behindYear⟩, -, h⟩ := bind_eq_ok h
  obtain ⟨_, -, h⟩ := bind_eq_ok h
  obtain ⟨⟨month, behindMonth⟩, -, h⟩ := bind_eq_ok h
  obtain ⟨_, -, h⟩ := bind_eq_ok h
  obtain ⟨⟨day, behindDay⟩, -, h⟩ := bind_eq_ok h
  obtain ⟨_, -, h⟩ := bind_eq_ok h
  obtain ⟨⟨hour, behindHour⟩, -, h⟩ := bind_eq_ok h
  obtain ⟨_, -, h⟩ := bind_eq_ok h
  obtain ⟨⟨minute, behindMinute⟩, -, h⟩ := bind_eq_ok h
  obtain ⟨_, -, h⟩ := bind_eq_ok h
  obtain ⟨⟨second, behindSecond⟩, -, h⟩ := bind_eq_ok h
  obtain ⟨⟨nanos, behindNanos⟩, hfraction, h⟩ := bind_eq_ok h
  obtain ⟨⟨offset, behindOffset⟩, hoffset, h⟩ := bind_eq_ok h
  obtain ⟨_, -, h⟩ := bind_eq_ok h
  exact Reading.proper_of_instant (Scan.optionalFraction_lt hfraction)
    (Scan.offset_emod hoffset) h

/-! ## Colons -/

namespace Scan

theorem count_colon_append
    {before : List Char} {test : Char → Bool}
    (hbefore : ∀ c ∈ before, test c = true) (htest : test ':' = false) :
    (before ++ rest).count ':' = rest.count ':' := by
  have hcolon : ':' ∉ before := fun hmem => by
    rw [hbefore ':' hmem] at htest
    cases htest
  rw [List.count_append, List.count_eq_zero_of_not_mem hcolon, Nat.zero_add]

theorem count_colon_of_number
    {least most n : Nat} (h : number least most cs = .ok (n, rest)) :
    cs.count ':' = rest.count ':' := by
  obtain ⟨ds, rfl, hdigits, -⟩ := number_eq_ok h
  exact count_colon_append hdigits rfl

theorem count_colon_of_mark {c : Char} (h : mark c cs = .ok rest) :
    cs.count ':' = rest.count ':' + if c = ':' then 1 else 0 := by
  rw [mark_eq_ok h, List.count_cons]
  simp

theorem count_colon_trimStart (cs : List Char) :
    (Text.trimStart cs).count ':' = cs.count ':' := by
  obtain ⟨blanks, hblanks, hcs⟩ := Text.exists_trimStart cs
  conv_rhs => rw [hcs]
  exact (count_colon_append hblanks rfl).symm

theorem count_colon_of_looseNumber
    {low high n : Nat} (h : looseNumber low high cs = .ok (n, rest)) :
    cs.count ':' = rest.count ':' := by
  obtain ⟨⟨read, behind⟩, hnumber, h⟩ := bind_eq_ok h
  obtain ⟨_, -, h⟩ := bind_eq_ok h
  cases h
  rw [← count_colon_trimStart, count_colon_of_number hnumber]

theorem count_colon_of_looseYear {year : Int}
    (h : looseYear cs = .ok (year, rest)) :
    cs.count ':' = rest.count ':' := by
  obtain ⟨before, rfl, -, hyear⟩ := looseYear_eq_ok h
  exact count_colon_append hyear rfl

end Scan

theorem count_colon_of_readLooseDate {date : Date}
    (h : readLooseDate cs = .ok (date, rest)) :
    cs.count ':' = rest.count ':' := by
  obtain ⟨⟨year, behindYear⟩, hyear, h⟩ := bind_eq_ok h
  obtain ⟨behindHyphen, hhyphen, h⟩ := bind_eq_ok h
  obtain ⟨⟨month, behindMonth⟩, hmonth, h⟩ := bind_eq_ok h
  obtain ⟨behindOther, hother, h⟩ := bind_eq_ok h
  obtain ⟨⟨day, behindDay⟩, hday, h⟩ := bind_eq_ok h
  cases h
  rw [Scan.count_colon_of_looseYear hyear, Scan.count_colon_of_mark hhyphen,
    Scan.count_colon_of_looseNumber hmonth, Scan.count_colon_of_mark hother,
    Scan.count_colon_of_looseNumber hday]
  rfl

theorem count_colon_of_readLooseMinute {hour minute : Nat}
    (h : readLooseMinute cs = .ok (hour, minute, rest)) :
    cs.count ':' = rest.count ':' + 1 := by
  obtain ⟨⟨_, behindHour⟩, hhour, h⟩ := bind_eq_ok h
  obtain ⟨behindColon, hcolon, h⟩ := bind_eq_ok h
  obtain ⟨⟨_, behindMinute⟩, hminute, h⟩ := bind_eq_ok h
  cases h
  rw [Scan.count_colon_of_looseNumber hhour, Scan.count_colon_of_mark hcolon,
    Scan.count_colon_of_looseNumber hminute, if_pos rfl]

theorem atEnd_eq_ok {u} (h : atEnd cs = .ok u) : cs = [] := by
  cases cs with
  | nil => rfl
  | cons c rest => cases h

/-! ## Forms without an offset -/

/-- A form without an offset gives proper instants, of texts with at most two
colons. -/
def Offsetless (form : List Char → Except TimeFault Instant) : Prop :=
  ∀ ⦃cs x⦄, form cs = .ok x → x.Proper ∧ cs.count ':' ≤ 2

theorem offsetless_readDateTime
    {part : List Char → Except TimeFault (List Char)}
    (hpart : ∀ cs rest, part cs = .ok rest → cs.count ':' = rest.count ':') :
    Offsetless (readDateTime part) := by
  intro cs x h
  obtain ⟨⟨date, behindDate⟩, hdate, h⟩ := bind_eq_ok h
  obtain ⟨time, htime, h⟩ := bind_eq_ok h
  obtain ⟨⟨hour, minute, behindMinute⟩, hminute, h⟩ := bind_eq_ok h
  obtain ⟨behindColon, hcolon, h⟩ := bind_eq_ok h
  obtain ⟨⟨second, behindSecond⟩, hsecond, h⟩ := bind_eq_ok h
  obtain ⟨_, hend, h⟩ := bind_eq_ok h
  refine ⟨Reading.proper_of_whole rfl h, ?_⟩
  rw [count_colon_of_readLooseDate hdate, hpart _ _ htime,
    count_colon_of_readLooseMinute hminute, Scan.count_colon_of_mark hcolon,
    Scan.count_colon_of_looseNumber hsecond, atEnd_eq_ok hend]
  decide

theorem offsetless_readDateMinute : Offsetless readDateMinute := by
  intro cs x h
  obtain ⟨⟨date, behindDate⟩, hdate, h⟩ := bind_eq_ok h
  obtain ⟨⟨hour, minute, behindMinute⟩, hminute, h⟩ := bind_eq_ok h
  obtain ⟨_, hend, h⟩ := bind_eq_ok h
  refine ⟨Reading.proper_of_whole rfl h, ?_⟩
  rw [count_colon_of_readLooseDate hdate, ← Scan.count_colon_trimStart,
    count_colon_of_readLooseMinute hminute, atEnd_eq_ok hend]
  decide

theorem offsetless_readDate : Offsetless readDate := by
  intro cs x h
  obtain ⟨⟨date, behindDate⟩, hdate, h⟩ := bind_eq_ok h
  obtain ⟨_, hend, h⟩ := bind_eq_ok h
  refine ⟨Reading.proper_of_whole rfl h, ?_⟩
  rw [count_colon_of_readLooseDate hdate, atEnd_eq_ok hend]
  decide

/-- A timestamp is read as RFC 3339 or in a form without an offset. -/
theorem readRfc3339_or_offsetless {s : String} (h : readTimestamp s = some x) :
    readRfc3339 (Text.trimChars s.toList) = .ok x ∨
      ∃ form, Offsetless form ∧ form (Text.trimChars s.toList) = .ok x := by
  obtain ⟨form, hform, hok⟩ := exists_form_of_readTimestamp h
  simp only [literalForms, List.mem_cons, List.not_mem_nil, or_false] at hform
  rcases hform with rfl | rfl | rfl | rfl | rfl
  · exact .inl hok
  · refine .inr ⟨_, offsetless_readDateTime fun cs rest hpart => ?_, hok⟩
    cases hpart
    exact (Scan.count_colon_trimStart cs).symm
  · exact .inr ⟨_, offsetless_readDateTime fun _ _ =>
      Scan.count_colon_of_mark, hok⟩
  · exact .inr ⟨_, offsetless_readDateMinute, hok⟩
  · exact .inr ⟨_, offsetless_readDate, hok⟩

theorem proper_of_readTimestamp {s : String} (h : readTimestamp s = some x) :
    x.Proper := by
  rcases readRfc3339_or_offsetless h with hread | ⟨form, hform, hread⟩
  · exact proper_of_readRfc3339 hread
  · exact (hform hread).1

/-! ## What is written -/

namespace Instant

theorem three_le_count_colon_text (x : Instant) :
    3 ≤ x.text.toList.count ':' := by
  have hcolon : ":".toList.count ':' = 1 := by decide
  have hoffset : "+00:00".toList.count ':' = 1 := by decide
  unfold text localText
  simp only [String.toList_append, List.count_append, hcolon, hoffset]
  omega

/-- The second as it is written; that of a leap second is the sixtieth. -/
def shownSecond (x : Instant) : Nat :=
  x.secondOfDay % 60 + if nanosPerSecond ≤ x.nanos then 1 else 0

theorem toList_text (x : Instant) :
    x.text.toList =
      (yearText x.date.year).toList ++
        '-' :: ((padded 2 x.date.month).toList ++
        '-' :: ((padded 2 x.date.day).toList ++
        'T' :: ((padded 2 (x.secondOfDay / 3600)).toList ++
        ':' :: ((padded 2 (x.secondOfDay / 60 % 60)).toList ++
        ':' :: ((padded 2 x.shownSecond).toList ++
        ((fractionText (x.nanos % nanosPerSecond)).toList ++
        '+' :: "00:00".toList)))))) := by
  simp [text, localText, shownSecond]

/-- The reading that the text of an instant spells. -/
def reading (x : Instant) : Reading :=
  ⟨x.date, x.secondOfDay / 3600, x.secondOfDay / 60 % 60, x.shownSecond,
    x.nanos % nanosPerSecond⟩

theorem Proper.instant_reading (h : x.Proper) : x.reading.instant 0 = .ok x := by
  have hvalid : x.date.Valid := x.inRange_iff.mp h.inRange
  have hlt := h.nanos_lt
  unfold nanosPerSecond at hlt
  have hleap : (if x.shownSecond = 60 then
      (59, x.nanos % nanosPerSecond + nanosPerSecond)
      else (x.shownSecond, x.nanos % nanosPerSecond)) =
        (x.secondOfDay % 60, x.nanos) := by
    unfold shownSecond nanosPerSecond
    by_cases hnanos : 1000000000 ≤ x.nanos
    · have hsecond := h.leap hnanos
      rw [if_pos hnanos, if_pos (by omega), hsecond]
      exact congrArg (Prod.mk 59) (by omega)
    · rw [if_neg hnanos, if_neg (by omega)]
      exact congrArg (Prod.mk _) (by omega)
  have hsecond : ((x.secondOfDay / 3600 : Nat) : Int) * 3600 +
      (x.secondOfDay / 60 % 60 : Nat) * 60 + (x.secondOfDay % 60 : Nat) - 0 =
        x.secondOfDay := by
    omega
  unfold Reading.instant reading
  rw [if_neg (not_not.mpr hvalid), if_neg (by decide)]
  dsimp only
  rw [hleap]
  dsimp only
  rw [hsecond, ofDate_date, if_pos h.inRange]

end Instant

/-! ## Reading what is written -/

namespace Instant

theorem exists_sign {year : Int} (h : ¬ (0 ≤ year ∧ year ≤ 9999)) :
    ∃ sign tail, (yearText year).toList = sign :: tail ∧
      (sign = '-' ∨ sign = '+') := by
  unfold yearText
  rw [if_neg h, String.toList_append]
  split
  · exact ⟨'-', _, rfl, .inl rfl⟩
  · exact ⟨'+', _, rfl, .inr rfl⟩

theorem exists_head_text (x : Instant) :
    ∃ c tail, x.text.toList = c :: tail ∧ Text.isBlank c = false ∧
      (¬ x.HasShortYear → c.isDigit = false) := by
  rw [toList_text]
  by_cases hyear : 0 ≤ x.date.year ∧ x.date.year ≤ 9999
  · rw [yearText, if_pos hyear]
    cases hdigits : (padded 4 x.date.year.toNat).toList with
    | nil =>
        have hlength : (padded 4 x.date.year.toNat).toList.length = 4 :=
          Number.length_padded (by decide) (by omega)
        rw [hdigits] at hlength
        cases hlength
    | cons c tail =>
        have hdigit : c.isDigit = true :=
          Number.isDigit_of_mem_padded (hdigits ▸ List.mem_cons_self)
        exact ⟨c, _, rfl, Text.isBlank_of_isDigit hdigit,
          fun hlong => absurd hyear hlong⟩
  · obtain ⟨sign, tail, hsign, rfl | rfl⟩ := exists_sign hyear
    · exact ⟨'-', _, by rw [hsign]; rfl, by decide, fun _ => rfl⟩
    · exact ⟨'+', _, by rw [hsign]; rfl, by decide, fun _ => rfl⟩

theorem trimChars_text (x : Instant) :
    Text.trimChars x.text.toList = x.text.toList := by
  obtain ⟨c, tail, htext, hblank, -⟩ := x.exists_head_text
  refine Text.trimChars_eq_self_of_ends ?_ ?_
  · rintro d hd
    rw [htext] at hd
    cases hd
    exact hblank
  · rintro d hd
    have hlast : x.text.toList.getLast? = some '0' := by
      simp [text]
    rw [hlast] at hd
    cases hd
    decide

end Instant

theorem readRfc3339_text (h : x.Proper) (hyear : x.HasShortYear) :
    readRfc3339 x.text.toList = .ok x := by
  obtain ⟨hlow, hhigh⟩ := hyear
  have hcalendar := x.inCalendar_date
  have hday := hcalendar.day_le.trans (daysInMonth_le _ _)
  have hsecond := x.secondOfDay_lt
  have hshown : x.shownSecond ≤ 60 := by
    unfold Instant.shownSecond
    split <;> omega
  have hfraction : x.nanos % Instant.nanosPerSecond < Instant.nanosPerSecond :=
    Nat.mod_lt _ (by decide)
  have hreading :
      Reading.instant ⟨⟨x.date.year.toNat, x.date.month, x.date.day⟩,
        x.secondOfDay / 3600, x.secondOfDay / 60 % 60, x.shownSecond,
        x.nanos % Instant.nanosPerSecond⟩ 0 = .ok x := by
    rw [Int.toNat_of_nonneg hlow]
    exact h.instant_reading
  have hoffset :
      Scan.offset (Scan.mark ':') ('+' :: "00:00".toList) = .ok (0, []) := by
    decide
  rw [x.toList_text, Instant.yearText, if_pos ⟨hlow, hhigh⟩]
  unfold readRfc3339
  rw [Scan.number_padded (by decide) (by decide) (by omega)]
  simp only [Json.ok_bind, Scan.mark_cons, Scan.separator, true_or, if_true,
    Scan.strictNumber_padded hcalendar.month_pos hcalendar.month_le (by decide),
    Scan.strictNumber_padded hcalendar.day_pos hday (by decide),
    Scan.strictNumber_padded (Nat.zero_le _)
      (show x.secondOfDay / 3600 ≤ 23 by omega) (by decide),
    Scan.strictNumber_padded (Nat.zero_le _)
      (show x.secondOfDay / 60 % 60 ≤ 59 by omega) (by decide),
    Scan.strictNumber_padded (Nat.zero_le _) hshown (by decide),
    Scan.optionalFraction_fractionText hfraction, hoffset, atEnd, hreading]

/-- A sign is no digit, so no year of RFC 3339 is read. -/
theorem readRfc3339_text_ne_ok (hyear : ¬ x.HasShortYear) (other : Instant) :
    readRfc3339 x.text.toList ≠ .ok other := by
  intro hread
  obtain ⟨c, tail, htext, -, hdigit⟩ := x.exists_head_text
  obtain ⟨⟨year, rest⟩, hnumber, -⟩ := bind_eq_ok hread
  obtain ⟨ds, happend, hds, hlength⟩ := Scan.number_eq_ok hnumber
  cases ds with
  | nil => cases hlength
  | cons d more =>
      rw [htext] at happend
      obtain ⟨rfl, -⟩ := List.cons.inj happend
      rw [hds c List.mem_cons_self] at hdigit
      cases hdigit hyear

/-- The text of a proper instant is read back, or, unless its year has four
digits, is no timestamp. -/
theorem readTimestamp_text (h : x.Proper) :
    readTimestamp x.text = if x.HasShortYear then some x else none := by
  by_cases hyear : x.HasShortYear
  · rw [if_pos hyear, readTimestamp, x.trimChars_text]
    simp [literalForms, readRfc3339_text h hyear, Except.toOption]
  · rw [if_neg hyear]
    cases hread : readTimestamp x.text with
    | none => rfl
    | some other =>
        exfalso
        have hread := readRfc3339_or_offsetless hread
        rw [x.trimChars_text] at hread
        rcases hread with hread | ⟨form, hform, hread⟩
        · exact readRfc3339_text_ne_ok hyear other hread
        · have hcolons := (hform hread).2
          have htext := x.three_le_count_colon_text
          omega

end Time

open Time (readTimestamp)

/-! ## Conditions -/

namespace Condition

variable {record : Record} {field text literal : String}
  {instant : Time.Instant}

theorem compareTexts_timestamp
    (hliteral : readTimestamp literal = some instant) (text : String) :
    compareTexts text literal =
      (readTimestamp text).map fun other => other.compare instant := by
  have hdecimal : Number.Decimal.read? literal = none := by
    cases hread : Number.Decimal.read? literal with
    | none => rfl
    | some d =>
        rw [Time.readTimestamp_of_decimal hread] at hliteral
        cases hliteral
  unfold compareTexts
  rw [hdecimal, hliteral]
  cases Number.Decimal.read? text <;> cases readTimestamp text <;> rfl

/-- A field is not before and not after a timestamp that denotes the same
instant, and neither holds of a field that denotes none. -/
theorem holds_of_timestamp
    (hget : record.get field = some (.string text))
    (hliteral : readTimestamp literal = some instant)
    (htext : ∀ other, readTimestamp text = some other → other = instant)
    {operator : Operator}
    (hoperator : operator = .greaterThanOrEqual ∨ operator = .lessThanOrEqual)
    (prior : Option Record) :
    (Condition.mk field operator (some literal)).holds record prior =
      (readTimestamp text).isSome := by
  have hfield : record.text field = some text := by
    rw [Record.text, hget]
    rfl
  have hcompare :
      compare (record.text field) (some literal) =
        (readTimestamp text).map fun _ => .eq := by
    rw [hfield, compare, compareTexts_timestamp hliteral]
    cases hread : readTimestamp text with
    | none => rfl
    | some other =>
        rw [htext other hread, Option.map_some, Time.Instant.compare_eq_cmp,
          cmp_self_eq_eq, Option.map_some]
  rcases hoperator with rfl | rfl <;>
    simp only [holds, hcompare] <;> cases readTimestamp text <;> rfl

end Condition

/-! ## Literals -/

namespace Literal

theorem convert_timestamp (literal : String) :
    convert .timestamp literal =
      orFail (.notTimestamp literal)
        ((readTimestamp literal).map fun instant => .string instant.text) :=
  rfl

theorem convert_of_readTimestamp
    {literal stored : String} {instant : Time.Instant}
    (hread : readTimestamp literal = some instant)
    (htext : instant.text = stored) :
    convert .timestamp literal = .ok (.string stored) := by
  rw [convert_timestamp, hread, ← htext]
  rfl

/-- A timestamp literal is stored as the text of its instant.  If the year of
the instant in universal time has four digits, then that text denotes the
instant, is stored as itself when it is written again, and is neither before
nor after the literal.  Otherwise it is no timestamp: to write it again is
refused, and no order holds between it and the literal. -/
theorem stored_timestamp_read_back
    {literal : String} {value : Json}
    (h : convert .timestamp literal = .ok value) :
    ∃ instant, readTimestamp literal = some instant ∧
      value = .string instant.text ∧
      readTimestamp instant.text =
        (if instant.HasShortYear then some instant else none) ∧
      (∀ (record after : Record) (name : String),
        record.fieldKind name = some .timestamp →
        record.setLiteral name literal = .ok (value, after) →
        after.setLiteral name instant.text =
          if instant.HasShortYear then .ok (value, after)
          else .error (.configuration ("cannot set '" ++ name ++ "': " ++
            (LiteralError.notTimestamp instant.text).message))) ∧
      ∀ (record : Record) (field : String), record.get field = some value →
        ∀ operator prior,
          operator = .greaterThanOrEqual ∨ operator = .lessThanOrEqual →
          (Condition.mk field operator (some literal)).holds record prior =
            decide instant.HasShortYear := by
  obtain ⟨instant, hliteral, rfl⟩ := orFail_map_eq_ok h
  have htext := Time.readTimestamp_text (Time.proper_of_readTimestamp hliteral)
  refine ⟨instant, hliteral, rfl, htext, fun record after name hkind hset => ?_,
    fun record field hget operator prior hoperator => ?_⟩
  · rw [Record.setLiteral_after hset, hkind, Option.getD_some,
      convert_timestamp, htext]
    by_cases hyear : instant.HasShortYear
    · obtain ⟨-, -, -, rfl⟩ := Record.setLiteral_eq_ok_iff.mp hset
      rw [if_pos hyear, if_pos hyear, Option.map_some]
      simp only [orFail, Record.store_store]
    · rw [if_neg hyear, if_neg hyear]
      rfl
  · have hsame : ∀ other, readTimestamp instant.text = some other →
        other = instant := by
      intro other hother
      rw [htext] at hother
      split at hother <;> cases hother
      rfl
    rw [Condition.holds_of_timestamp hget hliteral hsame hoperator, htext]
    by_cases hyear : instant.HasShortYear <;> simp [hyear]

/-- A ticket with a due date that its schema declares. -/
def openTicket : Record :=
  (Record.ofFields "Ticket" "T-1" []).withSchema
    ((Schema.mk "Ticket" []).field "DueDate" .timestamp)

/-- A leap second at an offset is stored in universal time. -/
theorem stored_timestamp_read_back_leap :
    let literal := " 2016-12-31 18:59:60.25-05:00"
    let stored := "2016-12-31T23:59:60.250+00:00"
    let due := openTicket.store "DueDate" (.string stored)
    readTimestamp literal = readTimestamp stored ∧
      openTicket.setLiteral "duedate" literal = .ok (.string stored, due) ∧
      due.setLiteral "duedate" stored = .ok (.string stored, due) ∧
      ∀ prior, (Condition.mk "DueDate" .lessThanOrEqual (some literal)).holds
        due prior = true := by
  intro literal stored due
  have hread : readTimestamp literal = some ⟨1483228799, 1250000000⟩ := by
    decide +kernel
  have hspelled : Time.Instant.text ⟨1483228799, 1250000000⟩ = stored := by
    decide +kernel
  have hconvert := convert_of_readTimestamp hread hspelled
  have hset : openTicket.setLiteral "duedate" literal =
      .ok (.string stored, due) :=
    Record.setLiteral_eq_ok_iff.mpr
      ⟨by decide +kernel, by decide +kernel, hconvert, rfl⟩
  obtain ⟨instant, hliteral, -, htext, hagain, hholds⟩ :=
    stored_timestamp_read_back hconvert
  obtain rfl := Option.some.inj (hread.symm.trans hliteral)
  have hyear : Time.Instant.HasShortYear ⟨1483228799, 1250000000⟩ := by
    decide +kernel
  rw [hspelled, if_pos hyear] at htext
  have hwritten := hagain openTicket due "duedate" rfl hset
  rw [hspelled, if_pos hyear] at hwritten
  refine ⟨hliteral.trans htext.symm, hset, hwritten, fun prior => ?_⟩
  rw [hholds due "DueDate" rfl .lessThanOrEqual prior (.inr rfl),
    decide_eq_true hyear]

/-- A literal of the last evening of the year 9999, west of Greenwich, is a
timestamp, but what is stored of it is none. -/
theorem late_year_not_read_back :
    let literal := "9999-12-31T23:00:00-02:00"
    let stored := "+10000-01-01T01:00:00+00:00"
    let due := openTicket.store "DueDate" (.string stored)
    convert .timestamp literal = .ok (.string stored) ∧
      readTimestamp literal = some ⟨253402304400, 0⟩ ∧
      readTimestamp stored = none ∧
      openTicket.setLiteral "DueDate" literal = .ok (.string stored, due) ∧
      due.setLiteral "DueDate" stored = .error (.configuration
        "cannot set 'DueDate': '+10000-01-01T01:00:00+00:00' is not a valid timestamp") ∧
      (Condition.mk "DueDate" .greaterThanOrEqual (some literal)).holds due none =
        false ∧
      (Condition.mk "DueDate" .lessThanOrEqual (some literal)).holds due none =
        false := by
  intro literal stored due
  have hread : readTimestamp literal = some ⟨253402304400, 0⟩ := by
    decide +kernel
  have hnone : readTimestamp stored = none := by decide +kernel
  have hconvert : convert .timestamp literal = .ok (.string stored) :=
    convert_of_readTimestamp hread (by decide +kernel)
  have hset : openTicket.setLiteral "DueDate" literal =
      .ok (.string stored, due) :=
    Record.setLiteral_eq_ok_iff.mpr
      ⟨by decide +kernel, by decide +kernel, hconvert, rfl⟩
  have hkind : openTicket.fieldKind "DueDate" = some .timestamp := rfl
  refine ⟨hconvert, hread, hnone, hset, ?_, by decide +kernel, by decide +kernel⟩
  rw [Record.setLiteral_after hset, hkind, Option.getD_some, convert_timestamp,
    hnone]
  rfl

end Literal

end RecordRules
