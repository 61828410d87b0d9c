import RecordRules.Proofs.CalendarDays
import RecordRules.Proofs.CharacterRuns
import RecordRules.Proofs.InstantOrder
import RecordRules.Proofs.TimestampTexts
import RecordRules.Time.DueDate

/-!
# Relative due dates

An amount of hours, days or weeks adds that many seconds, and an amount of
months leads to the same time of day so many months later, on the last day of a
month that is too short.  No amount that leads to an instant which is
represented is refused, none leads back, and a greater one leads further.
Whatever is no relative expression is read as a timestamp.
-/

namespace RecordRules

/-- A letter in lower case comes from itself or from its upper case. -/
theorem Text.eq_or_eq_of_asciiLowerChar
    {c small : Char} (h : asciiLowerChar c = small) :
    c = small ∨ c.toNat + 32 = small.toNat := by
  unfold asciiLowerChar at h
  split at h
  · rename_i hlarge
    have hbound : c.toNat ≤ 90 := hlarge.2
    have hvalid : (c.toNat + 32).isValidChar := .inl (by omega)
    rw [← h, Char.ofNat, dif_pos hvalid]
    exact .inr rfl
  · exact .inl h

namespace Time

/-! ## Expressions -/

namespace Unit

/-- The letter of a unit in both cases. -/
def letters : Unit → List Char
  | .hours => ['h', 'H']
  | .days => ['d', 'D']
  | .weeks => ['w', 'W']
  | .months => ['m', 'M']

/-- The seconds of a unit that is always as long. -/
def seconds? : Unit → Option Nat
  | .hours => some 3600
  | .days => some 86400
  | .weeks => some 604800
  | .months => none

theorem ofLetter?_of_mem {unit : Unit} {c : Char} (h : c ∈ unit.letters) :
    ofLetter? c = some unit := by
  cases unit <;>
    (obtain rfl | rfl := List.mem_pair.mp h) <;> rfl

theorem mem_of_ofLetter? {unit : Unit} {c : Char}
    (h : ofLetter? c = some unit) : c ∈ unit.letters := by
  have hletter {small large : Char} (hlower : Text.asciiLowerChar c = small)
      (hlarge : large.toNat + 32 = small.toNat) : c ∈ [small, large] := by
    rcases Text.eq_or_eq_of_asciiLowerChar hlower with rfl | hc
    · exact List.mem_cons_self
    · have hcode : c = large := Char.toNat_inj.mp (by omega)
      simp [hcode]
  unfold ofLetter? at h
  split at h
  · rename_i hlower
    obtain rfl := Option.some.inj h
    exact hletter hlower rfl
  · rename_i hlower
    obtain rfl := Option.some.inj h
    exact hletter hlower rfl
  · rename_i hlower
    obtain rfl := Option.some.inj h
    exact hletter hlower rfl
  · rename_i hlower
    obtain rfl := Option.some.inj h
    exact hletter hlower rfl
  · cases h

theorem letter_apart {unit : Unit} {c : Char} (h : c ∈ unit.letters) :
    Text.isBlank c = false ∧ Text.isUnicodeDigit c = false ∧ c ≠ '-' := by
  cases unit <;>
    (obtain rfl | rfl := List.mem_pair.mp h) <;> decide

end Unit

/-- The characters are a plus sign, the digits of an amount with blanks before
and behind them, and the letter of a unit. -/
structure Offset (cs digits : List Char) (unit : Unit) where
  before : List Char
  behind : List Char
  letter : Char
  chars : cs = '+' :: (before ++ (digits ++ (behind ++ [letter])))
  before_blank : ∀ c ∈ before, Text.isBlank c = true
  digits_ne_nil : digits ≠ []
  digits_digit : ∀ c ∈ digits, Text.isUnicodeDigit c = true
  behind_blank : ∀ c ∈ behind, Text.isBlank c = true
  letter_mem : letter ∈ unit.letters

theorem relative?_of_offset
    {cs digits : List Char} {unit : Unit} (offset : Offset cs digits unit) :
    relative? cs = some (digits, unit) := by
  obtain ⟨before, behind, letter, hcs, hbefore, hsome, hdigits, hbehind,
    hletter⟩ := offset
  obtain ⟨hblank, hdigit, -⟩ := Unit.letter_apart hletter
  obtain ⟨first, others, hfirst⟩ := List.exists_cons_of_ne_nil hsome
  have hstart :
      Text.trimStart (before ++ (digits ++ (behind ++ [letter]))) =
        digits ++ (behind ++ [letter]) :=
    Text.trimStart_run hbefore fun c hc => by
      obtain rfl : first = c := by simpa [hfirst] using hc
      rw [← Bool.not_eq_true]
      intro hc
      have hnone := Text.isUnicodeDigit_of_isBlank hc
      rw [hdigits first (by simp [hfirst])] at hnone
      cases hnone
  have hstop : ∀ c, (behind ++ [letter]).head? = some c →
      Text.isUnicodeDigit c = false := by
    intro c hc
    cases behind with
    | nil =>
        obtain rfl : letter = c := by simpa using hc
        exact hdigit
    | cons blank blanks =>
        obtain rfl : blank = c := by simpa using hc
        exact Text.isUnicodeDigit_of_isBlank (hbehind blank List.mem_cons_self)
  have hend : Text.trimStart (behind ++ [letter]) = [letter] :=
    Text.trimStart_run hbehind fun c hc => by
      obtain rfl : letter = c := by simpa using hc
      exact hblank
  rw [hcs]
  simp only [relative?, hstart, Text.takeWhile_run hdigits hstop,
    Text.dropWhile_run hdigits hstop, hend]
  simp only [hfirst, Unit.ofLetter?_of_mem hletter, Option.map_some]

theorem exists_offset_of_relative?
    {cs digits : List Char} {unit : Unit}
    (h : relative? cs = some (digits, unit)) : Nonempty (Offset cs digits unit) := by
  unfold relative? at h
  split at h
  · rename_i rest
    dsimp only at h
    obtain ⟨before, hbefore, hrest⟩ := Text.exists_trimStart rest
    obtain ⟨behind, hbehind, hend⟩ :=
      Text.exists_trimStart
        ((Text.trimStart rest).dropWhile Text.isUnicodeDigit)
    split at h
    · rename_i first others letter hdigits hletter
      obtain ⟨found, hfound, heq⟩ := Option.map_eq_some_iff.mp h
      simp only [Prod.mk.injEq] at heq
      obtain ⟨rfl, rfl⟩ := heq
      rw [hletter] at hend
      refine ⟨before, behind, letter, ?_, hbefore, by simp [hdigits],
        fun c hc => List.mem_takeWhile_imp hc, hbehind,
        Unit.mem_of_ofLetter? hfound⟩
      rw [← hend, List.takeWhile_append_dropWhile, ← hrest]
    · cases h
  · cases h

/-- The text, but for blanks at its ends, is a plus sign, an amount in ASCII
digits with blanks before and behind them, and the letter of a unit. -/
def Relative (s : String) (amount : Nat) (unit : Unit) : Prop :=
  ∃ digits, Nonempty (Offset (Text.trimChars s.toList) digits unit) ∧
    (∀ c ∈ digits, c.isDigit = true) ∧ Number.readDigits 0 digits = amount

theorem relative_of_digits
    {s : String} {digits : List Char} {letter : Char} {amount : Nat} {unit : Unit}
    (hchars : Text.trimChars s.toList = '+' :: (digits ++ [letter]))
    (hsome : digits ≠ []) (hdigits : digits.all Char.isDigit = true)
    (hamount : Number.readDigits 0 digits = amount)
    (hletter : letter ∈ unit.letters) : Relative s amount unit := by
  rw [List.all_eq_true] at hdigits
  exact ⟨digits, ⟨⟨[], [], letter, hchars, List.forall_mem_nil _, hsome,
    fun c hc => Text.isUnicodeDigit_of_isDigit (hdigits c hc),
    List.forall_mem_nil _, hletter⟩⟩, hdigits, hamount⟩

theorem dueDate_of_relative
    {s : String} {amount : Nat} {unit : Unit} (h : Relative s amount unit)
    (now : Instant) :
    dueDate s now =
      if amount < Number.twos 63 then unit.advance amount now else none := by
  obtain ⟨digits, ⟨offset⟩, hascii, rfl⟩ := h
  have hdigits : digits.all Char.isDigit = true := List.all_eq_true.mpr hascii
  simp [dueDate, Text.trim, relative?_of_offset offset, hdigits]

/-- No timestamp looks like an offset, in the digits of whatever script. -/
theorem readTimestamp_of_offset
    {s : String} {digits : List Char} {unit : Unit}
    (offset : Offset (Text.trimChars s.toList) digits unit) :
    readTimestamp s = none := by
  cases hread : readTimestamp s with
  | none => rfl
  | some instant =>
      obtain ⟨before, behind, hchars, -⟩ := hyphenWithin_of_readTimestamp hread
      have hmem : '-' ∈ Text.trimChars s.toList := by simp [hchars]
      rw [offset.chars] at hmem
      simp only [List.mem_cons, List.mem_append, List.not_mem_nil, or_false] at hmem
      rcases hmem with hplus | hbefore | hdigit | hbehind | hletter
      · cases hplus
      · cases offset.before_blank _ hbefore
      · cases offset.digits_digit _ hdigit
      · cases offset.behind_blank _ hbehind
      · exact absurd hletter.symm (Unit.letter_apart offset.letter_mem).2.2

theorem dueDate_of_not_relative
    {s : String} (h : ∀ amount unit, ¬ Relative s amount unit)
    (now : Instant) : dueDate s now = readTimestamp s := by
  have htrim : readTimestamp (Text.trim s) = readTimestamp s := by
    simp [readTimestamp, Text.trim]
  unfold dueDate
  dsimp only
  rw [Text.trim, String.toList_ofList]
  cases hrelative : relative? (Text.trimChars s.toList) with
  | none => exact htrim
  | some found =>
      obtain ⟨digits, unit⟩ := found
      obtain ⟨offset⟩ := exists_offset_of_relative? hrelative
      have hforeign : digits.all Char.isDigit = false := by
        rw [← Bool.not_eq_true, List.all_eq_true]
        intro hascii
        exact h _ unit ⟨digits, ⟨offset⟩, hascii, rfl⟩
      simp [hforeign, readTimestamp_of_offset offset]

/-! ## Units of a fixed length -/

namespace Instant

/-- The instant so many seconds later, represented or not. -/
def plus (x : Instant) (seconds : Nat) : Instant :=
  ⟨x.seconds + seconds, x.nanos⟩

theorem inRange_iff_seconds (x : Instant) :
    x.inRange = true ↔
      -8334601228800 ≤ x.seconds ∧ x.seconds < 8210266876800 := by
  have hfirst : (Date.mk firstYear 1 1).toDays = -96465292 := by decide
  have hlast : (Date.mk lastYear 12 31).toDays = 95026236 := by decide
  unfold inRange
  rw [decide_eq_true_iff, hfirst, hlast]
  omega

theorem addSeconds_eq {x : Instant} (hleap : x.nanos < nanosPerSecond)
    (seconds : Nat) :
    x.addSeconds seconds =
      if (x.plus seconds).inRange = true then some (x.plus seconds) else none := by
  unfold addSeconds
  rw [if_pos (Or.inl hleap)]
  rfl

end Instant

open Instant (nanosPerSecond)

/-- The bound of durations refuses nothing that would be represented. -/
theorem later_eq {now : Instant} (hrange : now.inRange = true)
    (hleap : now.nanos < nanosPerSecond) (amount unitSeconds : Nat) :
    later now amount unitSeconds =
      if (now.plus (amount * unitSeconds)).inRange = true then
        some (now.plus (amount * unitSeconds))
      else none := by
  unfold later
  split
  · exact Instant.addSeconds_eq hleap _
  · rename_i hbound
    have hfar : ¬ (now.plus (amount * unitSeconds)).inRange = true := by
      have hdurations : durationBound = 9223372036854775 := by decide
      rw [Instant.inRange_iff_seconds] at hrange ⊢
      unfold Instant.plus
      dsimp only
      omega
    rw [if_neg hfar]

namespace Unit

theorem advance_of_seconds?
    {unit : Unit} {seconds : Nat} (h : unit.seconds? = some seconds)
    (amount : Nat) (now : Instant) :
    unit.advance amount now = later now amount seconds := by
  cases unit <;> cases h <;> rfl

end Unit

/-! ## Months -/

namespace Date

theorem addMonths_year (d : Date) (months : Nat) :
    (d.addMonths months).year = (d.monthIndex + months) / 12 := rfl

/-- Months later there is a date in that month, on the same day or else the
last one. -/
theorem inCalendar_addMonths {d : Date} (h : d.InCalendar) (months : Nat) :
    (d.addMonths months).InCalendar := by
  have hday := h.day_pos
  have hlength := monthLength_pos (d.monthIndex + months)
  unfold monthLength at hlength
  refine ⟨Nat.le_add_left 1 _, ?_, ?_, ?_⟩
  · unfold addMonths
    dsimp only
    omega
  · exact Nat.le_min.mpr ⟨hday, hlength⟩
  · exact Nat.min_le_right _ _

theorem monthIndex_addMonths (d : Date) (months : Nat) :
    (d.addMonths months).monthIndex = d.monthIndex + months := by
  conv_lhs => unfold monthIndex addMonths
  dsimp only
  omega

theorem addMonths_zero {d : Date} (h : d.InCalendar) : d.addMonths 0 = d := by
  have hyear := h.monthIndex_ediv
  have hmonth := h.monthIndex_emod
  have hday := h.day_le
  unfold addMonths
  simp only [Int.natCast_zero, add_zero, hyear, hmonth]
  rw [Nat.min_eq_left hday]

end Date

namespace Instant

theorem addMonths_eq_some
    {now due : Instant} {months : Nat} (h : now.addMonths months = some due) :
    due = ofDate (now.date.addMonths months) now.secondOfDay now.nanos := by
  unfold addMonths at h
  dsimp only at h
  split at h
  · exact (Option.some.inj h).symm
  · cases h

theorem addMonths_eq_none_iff {now : Instant} (hrange : now.inRange = true)
    (months : Nat) :
    now.addMonths months = none ↔
      lastYear < (now.date.monthIndex + months) / 12 := by
  have hcalendar := now.inCalendar_date
  have hfirst := (Date.valid_iff.mp ((inRange_iff now).mp hrange)).1
  have hyear := hcalendar.monthIndex_ediv
  have hvalid :
      (now.date.addMonths months).Valid ↔
        (now.date.monthIndex + months) / 12 ≤ lastYear := by
    rw [Date.valid_iff, Date.addMonths_year]
    constructor
    · exact fun h => h.2.1
    · exact fun h => ⟨by omega, h, Date.inCalendar_addMonths hcalendar months⟩
  unfold addMonths
  dsimp only
  split
  · rename_i hrepresented
    have := hvalid.mp hrepresented
    simp
    omega
  · rename_i hbeyond
    have := mt hvalid.mpr hbeyond
    simp
    omega

/-- The time of day is the same, so many months later, on the same day or else
the last one of the month. -/
structure MonthsLater (now due : Instant) (months : Nat) : Prop where
  secondOfDay : due.secondOfDay = now.secondOfDay
  nanos : due.nanos = now.nanos
  month : due.date.monthIndex = now.date.monthIndex + months
  day : due.date.day =
    min now.date.day (daysInMonth due.date.year due.date.month)

theorem date_of_addMonths
    {now due : Instant} {months : Nat} (h : now.addMonths months = some due) :
    due.date = now.date.addMonths months := by
  have hsecond := now.secondOfDay_lt
  rw [addMonths_eq_some h]
  exact date_ofDate (Date.inCalendar_addMonths now.inCalendar_date months)
    ⟨by omega, by omega⟩ _

theorem monthsLater_of_addMonths
    {now due : Instant} {months : Nat} (h : now.addMonths months = some due) :
    MonthsLater now due months := by
  have hdate := date_of_addMonths h
  exact {
    secondOfDay := by
      rw [addMonths_eq_some h]
      exact secondOfDay_ofDate _ now.secondOfDay_lt _
    nanos := by rw [addMonths_eq_some h]; rfl
    month := by rw [hdate, Date.monthIndex_addMonths]
    day := by rw [hdate]; rfl }

theorem addMonths_zero {now : Instant} (hrange : now.inRange = true) :
    now.addMonths 0 = some now := by
  unfold addMonths
  dsimp only
  rw [Date.addMonths_zero now.inCalendar_date,
    if_pos ((inRange_iff now).mp hrange), ofDate_date]

theorem notAfter_eq_false_of_seconds_lt
    {a b : Instant} (h : a.seconds < b.seconds) : b.notAfter a = false := by
  rw [← Bool.not_eq_true, notAfter_iff]
  omega

theorem later_of_addMonths
    {now a b : Instant} {m n : Nat} (hless : m < n)
    (ha : now.addMonths m = some a) (hb : now.addMonths n = some b) :
    b.notAfter a = false := by
  have hdays : a.date.toDays < b.date.toDays :=
    Date.toDays_lt_of_monthIndex_lt a.inCalendar_date b.inCalendar_date (by
      rw [(monthsLater_of_addMonths ha).month,
        (monthsLater_of_addMonths hb).month]
      omega)
  rw [a.toDays_date, b.toDays_date] at hdays
  exact notAfter_eq_false_of_seconds_lt (by omega)

end Instant

/-! ## Amounts -/

section Amounts

variable {now : Instant} (hrange : now.inRange = true)
  (hleap : now.nanos < nanosPerSecond)

include hrange hleap

theorem Unit.advance_zero (unit : Unit) : unit.advance 0 now = some now := by
  cases hseconds : unit.seconds? with
  | some seconds =>
      have hplus : now.plus (0 * seconds) = now := by simp [Instant.plus]
      rw [Unit.advance_of_seconds? hseconds, later_eq hrange hleap, hplus,
        if_pos hrange]
  | none =>
      cases unit <;> cases hseconds
      exact Instant.addMonths_zero hrange

theorem Unit.later_of_advance
    {unit : Unit} {m n : Nat} {a b : Instant} (hless : m < n)
    (ha : unit.advance m now = some a) (hb : unit.advance n now = some b) :
    b.notAfter a = false := by
  cases hseconds : unit.seconds? with
  | some seconds =>
      rw [Unit.advance_of_seconds? hseconds, later_eq hrange hleap,
        Option.ite_none_right_eq_some, Option.some.injEq] at ha hb
      obtain ⟨-, rfl⟩ := ha
      obtain ⟨-, rfl⟩ := hb
      have hpos : 0 < seconds := by
        cases unit <;> cases hseconds <;> decide
      have hproduct : m * seconds < n * seconds :=
        Nat.mul_lt_mul_of_pos_right hless hpos
      refine Instant.notAfter_eq_false_of_seconds_lt ?_
      unfold Instant.plus
      dsimp only
      omega
  | none =>
      cases unit <;> cases hseconds
      unfold advance at ha hb
      dsimp only at ha hb
      rw [Option.ite_none_right_eq_some] at ha hb
      exact Instant.later_of_addMonths hless ha.2 hb.2

theorem Unit.notAfter_of_advance
    {unit : Unit} {amount : Nat} {due : Instant}
    (h : unit.advance amount now = some due) : now.notAfter due = true := by
  rcases Nat.eq_zero_or_pos amount with rfl | hpos
  · rw [Unit.advance_zero hrange hleap] at h
    obtain rfl := Option.some.inj h
    exact now.notAfter_refl
  · have hlater :=
      Unit.later_of_advance hrange hleap hpos
        (Unit.advance_zero hrange hleap unit) h
    rcases now.notAfter_total due with hfirst | hsecond
    · exact hfirst
    · rw [hsecond] at hlater
      cases hlater

/-- Hours, days and weeks are added exactly; what is refused does not fit or is
not represented. -/
theorem dueDate_of_seconds?
    {s : String} {amount seconds : Nat} {unit : Unit}
    (h : Relative s amount unit) (hseconds : unit.seconds? = some seconds) :
    dueDate s now =
      if amount < Number.twos 63 ∧
          (now.plus (amount * seconds)).inRange = true then
        some (now.plus (amount * seconds))
      else none := by
  rw [dueDate_of_relative h, Unit.advance_of_seconds? hseconds,
    later_eq hrange hleap, ite_and]

omit hleap in
theorem dueDate_months_eq_none_iff
    {s : String} {amount : Nat} (h : Relative s amount .months) :
    dueDate s now = none ↔
      lastYear < (now.date.monthIndex + amount) / 12 := by
  have hfirst :=
    (Date.valid_iff.mp ((Instant.inRange_iff now).mp hrange)).1
  have hyear := now.inCalendar_date.monthIndex_ediv
  rw [dueDate_of_relative h, ← Instant.addMonths_eq_none_iff hrange]
  by_cases hfits : amount < Number.twos 31
  · have hfits' : amount < Number.twos 63 :=
      hfits.trans (by decide)
    rw [if_pos hfits', Unit.advance, if_pos hfits]
  · -- beyond the bound of month counts the year is out of range anyhow
    have hfar : lastYear < (now.date.monthIndex + amount) / 12 := by
      have htwos : Number.twos 31 = 2147483648 := by decide
      unfold firstYear at hfirst
      unfold lastYear
      omega
    have hnone := (Instant.addMonths_eq_none_iff hrange amount).mpr hfar
    simp [Unit.advance, hfits, hnone]

end Amounts

theorem monthsLater_of_dueDate
    {s : String} {amount : Nat} {now due : Instant}
    (h : Relative s amount .months) (hdue : dueDate s now = some due) :
    Instant.MonthsLater now due amount := by
  rw [dueDate_of_relative h, Option.ite_none_right_eq_some, Unit.advance,
    Option.ite_none_right_eq_some] at hdue
  exact Instant.monthsLater_of_addMonths hdue.2.2

theorem advance_of_dueDate
    {s : String} {amount : Nat} {unit : Unit} {now due : Instant}
    (h : Relative s amount unit) (hdue : dueDate s now = some due) :
    unit.advance amount now = some due := by
  rw [dueDate_of_relative h, Option.ite_none_right_eq_some] at hdue
  exact hdue.2

/-- As many weeks, seven times as many days and 168 times as many hours lead to
the same instant, or all to none. -/
theorem weeks_days_hours_agree
    {now : Instant} (hrange : now.inRange = true)
    (hleap : now.nanos < nanosPerSecond)
    {weeks days hours : String} {amount : Nat}
    (hweeks : Relative weeks amount .weeks)
    (hdays : Relative days (7 * amount) .days)
    (hhours : Relative hours (168 * amount) .hours)
    (hfits : 168 * amount < Number.twos 63) :
    dueDate weeks now = dueDate days now ∧
      dueDate days now = dueDate hours now := by
  have hdaySeconds : 7 * amount * 86400 = amount * 604800 := by
    rw [Nat.mul_right_comm, Nat.mul_comm amount]
  have hhourSeconds : 168 * amount * 3600 = amount * 604800 := by
    rw [Nat.mul_right_comm, Nat.mul_comm amount]
  have hfitsWeeks : amount < Number.twos 63 := by omega
  have hfitsDays : 7 * amount < Number.twos 63 := by omega
  rw [dueDate_of_seconds? hrange hleap hweeks rfl,
    dueDate_of_seconds? hrange hleap hdays rfl,
    dueDate_of_seconds? hrange hleap hhours rfl, hdaySeconds, hhourSeconds]
  simp [hfits, hfitsWeeks, hfitsDays]

/-- From an instant outside of leap seconds a relative expression leads exactly
as far as it says, or to no due date when that does not fit or is not
represented; it never leads back, and a greater amount leads further.  Any
other text is read as a timestamp. -/
theorem relative_due_date_exact
    {now : Instant} (hrange : now.inRange = true)
    (hleap : now.nanos < nanosPerSecond) :
    (∀ s amount unit seconds, Relative s amount unit →
      unit.seconds? = some seconds →
      dueDate s now =
        if amount < Number.twos 63 ∧
            (now.plus (amount * seconds)).inRange = true then
          some (now.plus (amount * seconds))
        else none) ∧
    (∀ weeks days hours amount, Relative weeks amount .weeks →
      Relative days (7 * amount) .days →
      Relative hours (168 * amount) .hours →
      168 * amount < Number.twos 63 →
      dueDate weeks now = dueDate days now ∧
        dueDate days now = dueDate hours now) ∧
    (∀ s amount, Relative s amount .months →
      (∀ due, dueDate s now = some due →
        Instant.MonthsLater now due amount) ∧
      (dueDate s now = none ↔
        lastYear < (now.date.monthIndex + amount) / 12)) ∧
    (∀ s amount unit due, Relative s amount unit →
      dueDate s now = some due → now.notAfter due = true) ∧
    (∀ s t m n unit a b, Relative s m unit → Relative t n unit → m < n →
      dueDate s now = some a → dueDate t now = some b →
      b.notAfter a = false) ∧
    ∀ s, (∀ amount unit, ¬ Relative s amount unit) →
      dueDate s now = readTimestamp s := by
  refine ⟨fun s amount unit seconds h hseconds => ?_,
    fun weeks days hours amount hweeks hdays hhours hfits => ?_,
    fun s amount h => ⟨fun due hdue => ?_, ?_⟩,
    fun s amount unit due h hdue => ?_,
    fun s t m n unit a b hs ht hless ha hb => ?_,
    fun s h => dueDate_of_not_relative h now⟩
  · exact dueDate_of_seconds? hrange hleap h hseconds
  · exact weeks_days_hours_agree hrange hleap hweeks hdays hhours hfits
  · exact monthsLater_of_dueDate h hdue
  · exact dueDate_months_eq_none_iff hrange h
  · exact Unit.notAfter_of_advance hrange hleap (advance_of_dueDate h hdue)
  · exact Unit.later_of_advance hrange hleap hless (advance_of_dueDate hs ha)
      (advance_of_dueDate ht hb)

/-- On the last morning of January in a leap year: weeks are days and hours, a
month ends on the last of February, and two months lead beyond it. -/
theorem relative_due_date_exact_january :
    let now : Instant := ⟨1706691600, 0⟩
    (dueDate " + 2 W" now = some (now.plus (2 * 604800)) ∧
      dueDate " + 2 W" now = dueDate "+14d" now ∧
      dueDate "+14d" now = dueDate "+336H" now) ∧
    dueDate "+1m" now = some ⟨1709197200, 0⟩ ∧
    Instant.MonthsLater now ⟨1709197200, 0⟩ 1 ∧
    now.notAfter ⟨1709197200, 0⟩ = true ∧
    (∀ due, dueDate "+2m" now = some due →
      due.notAfter ⟨1709197200, 0⟩ = false) ∧
    dueDate "2024-03-01" now = readTimestamp "2024-03-01" := by
  intro now
  have hweeks : Relative " + 2 W" 2 .weeks :=
    ⟨['2'], ⟨⟨[' '], [' '], 'W', by decide, List.all_eq_true.mp rfl, by decide,
      List.all_eq_true.mp rfl, List.all_eq_true.mp rfl, by decide⟩⟩,
      List.all_eq_true.mp rfl, by decide⟩
  have hdays : Relative "+14d" (7 * 2) .days :=
    relative_of_digits (show _ = '+' :: (['1', '4'] ++ ['d']) by decide) (by decide)
      (by decide) (by decide) (by decide)
  have hhours : Relative "+336H" (168 * 2) .hours :=
    relative_of_digits (show _ = '+' :: (['3', '3', '6'] ++ ['H']) by decide) (by decide)
      (by decide) (by decide) (by decide)
  have hmonth : Relative "+1m" 1 .months :=
    relative_of_digits (show _ = '+' :: (['1'] ++ ['m']) by decide) (by decide)
      (by decide) (by decide) (by decide)
  have hmonths : Relative "+2m" 2 .months :=
    relative_of_digits (show _ = '+' :: (['2'] ++ ['m']) by decide) (by decide)
      (by decide) (by decide) (by decide)
  have hfebruary : dueDate "+1m" now = some ⟨1709197200, 0⟩ := by
    decide +kernel
  have hdate : ∀ amount unit, ¬ Relative "2024-03-01" amount unit := by
    rintro amount unit ⟨digits, ⟨offset⟩, -⟩
    have hfirst := congrArg List.head? offset.chars
    exact absurd hfirst (by simp; decide)
  obtain ⟨hexact, hagree, hlater, hforward, hfurther, hother⟩ :=
    relative_due_date_exact (show now.inRange = true by decide) (by decide)
  refine ⟨⟨?_, hagree _ _ _ 2 hweeks hdays hhours (by decide)⟩, hfebruary,
    (hlater _ 1 hmonth).1 _ hfebruary, hforward _ 1 _ _ hmonth hfebruary,
    fun due hdue => hfurther _ _ 1 2 _ _ _ hmonth hmonths (by decide)
      hfebruary hdue, hother _ hdate⟩
  rw [hexact _ 2 _ _ hweeks rfl, if_pos (by decide)]

end Time
end RecordRules
