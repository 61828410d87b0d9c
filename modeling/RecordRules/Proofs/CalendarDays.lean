import Mathlib.Algebra.Order.Ring.Int
import Mathlib.Order.SuccPred.Basic
import Mathlib.Tactic.IntervalCases
import RecordRules.Time.Instant

/-!
# Dates and the numbers of their days

The months follow one another without gaps, so the number of a day grows with
its date and determines it.  The date that is computed for a number stands in
the calendar and has that number.  So an instant is its date with the second of
the day, and it is represented exactly when the year of its date is.
-/

namespace RecordRules.Time

theorem isLeapYear_iff (year : Int) :
    isLeapYear year = true ↔
      year % 4 = 0 ∧ (year % 100 ≠ 0 ∨ year % 400 = 0) := by
  simp [isLeapYear]

theorem daysInMonth_le (year : Int) (month : Nat) :
    daysInMonth year month ≤ 31 := by
  unfold daysInMonth
  split
  · split <;> decide
  split <;> decide

/-- The days of the month so many months after January of year zero. -/
def monthLength (index : Int) : Nat :=
  daysInMonth (index / 12) ((index % 12).toNat + 1)

theorem monthLength_pos (index : Int) : 0 < monthLength index := by
  unfold monthLength daysInMonth
  split
  · split <;> decide
  split <;> decide

namespace Date

variable {d e : Date}

/-- The date exists, in whatever year. -/
structure InCalendar (d : Date) : Prop where
  month_pos : 1 ≤ d.month
  month_le : d.month ≤ 12
  day_pos : 1 ≤ d.day
  day_le : d.day ≤ daysInMonth d.year d.month

theorem valid_iff :
    d.Valid ↔ firstYear ≤ d.year ∧ d.year ≤ lastYear ∧ d.InCalendar := by
  constructor
  · rintro ⟨hfirst, hlast, hmonth, hmonth', hday, hday'⟩
    exact ⟨hfirst, hlast, hmonth, hmonth', hday, hday'⟩
  · rintro ⟨hfirst, hlast, hcalendar⟩
    exact ⟨hfirst, hlast, hcalendar.month_pos, hcalendar.month_le,
      hcalendar.day_pos, hcalendar.day_le⟩

/-! ## Months in a row -/

/-- From March to March it is a year, which has its leap day at the end. -/
theorem daysBeforeMarch_eq (year : Int) :
    daysBeforeMarch year =
      daysBeforeMarch (year - 1) + 365 +
        (if isLeapYear year = true then 1 else 0) := by
  have hfour : year / 4 = (year - 1) / 4 + if year % 4 = 0 then 1 else 0 := by
    split <;> omega
  have hcentury :
      year / 100 = (year - 1) / 100 + if year % 100 = 0 then 1 else 0 := by
    split <;> omega
  have hera :
      year / 400 = (year - 1) / 400 + if year % 400 = 0 then 1 else 0 := by
    split <;> omega
  unfold daysBeforeMarch
  rw [hfour, hcentury, hera]
  simp only [isLeapYear_iff]
  split_ifs <;> omega

/-- The number of the first day of the month so many months after January of
year zero. -/
def monthStart (index : Int) : Int :=
  toDays ⟨index / 12, (index % 12).toNat + 1, 1⟩

/-- A month begins where the one before it ends. -/
theorem monthStart_succ (index : Int) :
    monthStart (index + 1) = monthStart index + monthLength index := by
  obtain ⟨month, hmonth⟩ : ∃ month : Nat, index % 12 = month :=
    ⟨(index % 12).toNat, by omega⟩
  have hbound : month < 12 := by omega
  obtain ⟨year, hyear⟩ : ∃ year : Int, index / 12 = year := ⟨_, rfl⟩
  have hmarch := daysBeforeMarch_eq year
  unfold monthStart monthLength daysInMonth toDays marchYear marchMonth
    daysBeforeMonth
  rw [hmonth, hyear, Int.toNat_natCast]
  by_cases hlast : month = 11
  · have hnextYear : (index + 1) / 12 = year + 1 := by omega
    have hnextMonth : (index + 1) % 12 = (0 : Nat) := by omega
    rw [hnextYear, hnextMonth, Int.toNat_natCast, hlast]
    simp
    omega
  · have hnextYear : (index + 1) / 12 = year := by omega
    have hnextMonth : (index + 1) % 12 = (month + 1 : Nat) := by omega
    rw [hnextYear, hnextMonth, Int.toNat_natCast]
    by_cases hfebruary : month = 1
    · rw [hfebruary]
      simp only [Nat.reduceAdd, Nat.reduceLeDiff, reduceIte, hmarch]
      split <;> omega
    · interval_cases month <;> simp at hlast hfebruary ⊢ <;> omega

theorem monthStart_le {first second : Int} (h : first ≤ second) :
    monthStart first ≤ monthStart second := by
  have hmono : Monotone monthStart :=
    monotone_int_of_le_succ fun index => by
      rw [monthStart_succ]
      omega
  exact hmono h

theorem InCalendar.monthIndex_ediv (h : d.InCalendar) :
    d.monthIndex / 12 = d.year := by
  have := h.month_pos
  have := h.month_le
  unfold monthIndex
  omega

theorem InCalendar.monthIndex_emod (h : d.InCalendar) :
    (d.monthIndex % 12).toNat + 1 = d.month := by
  have := h.month_pos
  have := h.month_le
  unfold monthIndex
  omega

theorem InCalendar.toDays_eq (h : d.InCalendar) :
    d.toDays = monthStart d.monthIndex + (d.day - 1 : Int) := by
  rw [monthStart, h.monthIndex_ediv, h.monthIndex_emod]
  unfold toDays marchYear marchMonth
  dsimp only
  omega

theorem InCalendar.day_le_monthLength (h : d.InCalendar) :
    d.day ≤ monthLength d.monthIndex := by
  rw [monthLength, h.monthIndex_ediv, h.monthIndex_emod]
  exact h.day_le

theorem toDays_lt_of_monthIndex_lt
    (hd : d.InCalendar) (he : e.InCalendar)
    (hlater : d.monthIndex < e.monthIndex) : d.toDays < e.toDays := by
  have hnext : monthStart (d.monthIndex + 1) ≤ monthStart e.monthIndex :=
    monthStart_le hlater
  have hsucc := monthStart_succ d.monthIndex
  have hday := hd.day_le_monthLength
  have hfirst := he.day_pos
  rw [hd.toDays_eq, he.toDays_eq]
  omega

theorem monthIndex_eq_of_toDays_eq
    (hd : d.InCalendar) (he : e.InCalendar) (heq : d.toDays = e.toDays) :
    d.monthIndex = e.monthIndex := by
  rcases lt_trichotomy d.monthIndex e.monthIndex with hlt | hsame | hgt
  · exact absurd heq (toDays_lt_of_monthIndex_lt hd he hlt).ne
  · exact hsame
  · exact absurd heq (toDays_lt_of_monthIndex_lt he hd hgt).ne'

theorem eq_of_toDays_eq
    (hd : d.InCalendar) (he : e.InCalendar) (heq : d.toDays = e.toDays) :
    d = e := by
  have hindex := monthIndex_eq_of_toDays_eq hd he heq
  have hyear : d.year = e.year := by
    rw [← hd.monthIndex_ediv, hindex, he.monthIndex_ediv]
  have hmonth : d.month = e.month := by
    rw [← hd.monthIndex_emod, hindex, he.monthIndex_emod]
  have hday : d.day = e.day := by
    rw [hd.toDays_eq, he.toDays_eq, hindex] at heq
    omega
  cases d
  cases e
  simp_all

/-! ## Dates of numbers -/

/-- The year of its era in which a day lies, counted from March. -/
def yearOfEra (day : Nat) : Nat :=
  (day - day / 1460 + day / 36524 - day / 146096) / 365

/-- The day of its year, counted from March. -/
def dayOfYear (day : Nat) : Nat :=
  day - (365 * yearOfEra day + yearOfEra day / 4 - yearOfEra day / 100)

/-- A day of an era is the last one, a leap day beyond the four centuries, or
lies in a century, in one of its runs of four years, and on a day of that
run. -/
theorem exists_century {day : Nat} (h : day < 146097) :
    day = 146096 ∨
      ∃ century run rest, century ≤ 3 ∧ rest ≤ 1460 ∧
        1461 * run + rest < 36524 ∧
        day = 36524 * century + 1461 * run + rest := by
  by_cases hlast : day = 146096
  · exact .inl hlast
  · refine .inr
      ⟨day / 36524, day % 36524 / 1461, day % 36524 % 1461, ?_⟩
    omega

/-- The years of a run of four have 365 days each; the leap day behind them
counts to the last of them. -/
theorem yearOfEra_eq {century run rest : Nat}
    (hcentury : century ≤ 3) (hrest : rest ≤ 1460)
    (hrun : 1461 * run + rest < 36524) :
    yearOfEra (36524 * century + 1461 * run + rest) =
      100 * century + 4 * run + min 3 (rest / 365) := by
  have hruns :
      (36524 * century + 1461 * run + rest) / 1460 =
        25 * century + run + (24 * century + run + rest) / 1460 := by
    omega
  have hcenturies :
      (36524 * century + 1461 * run + rest) / 36524 = century := by
    omega
  have heras : (36524 * century + 1461 * run + rest) / 146096 = 0 := by
    omega
  unfold yearOfEra
  rw [hruns, hcenturies, heras]
  omega

/-- The years of an era before that of a day end before the day, and the next
year begins behind it: a leap day only when that is a leap year. -/
theorem dayOfYear_spec {day : Nat} (h : day < 146097) (era : Int) :
    yearOfEra day ≤ 399 ∧
      365 * yearOfEra day + yearOfEra day / 4 - yearOfEra day / 100 +
        dayOfYear day = day ∧
      (dayOfYear day ≤ 364 ∨
        dayOfYear day = 365 ∧
          isLeapYear (yearOfEra day + 400 * era + 1) = true) := by
  unfold dayOfYear
  rw [isLeapYear_iff]
  rcases exists_century h with rfl | ⟨century, run, rest, hcentury, hrest, hrun, rfl⟩
  · have hyear : yearOfEra 146096 = 399 := by decide
    rw [hyear]
    omega
  · rw [yearOfEra_eq hcentury hrest hrun]
    have hfours :
        (100 * century + 4 * run + min 3 (rest / 365)) / 4 =
          25 * century + run := by
      omega
    have hhundreds :
        (100 * century + 4 * run + min 3 (rest / 365)) / 100 = century := by
      omega
    rw [hfours, hhundreds]
    omega

/-- The date of a day of the year, both counted from March. -/
def ofDayOfYear (year : Int) (day : Nat) : Date :=
  let month := (5 * day + 2) / 153
  if month < 10 then ⟨year, month + 3, day - daysBeforeMonth month + 1⟩
  else ⟨year + 1, month - 9, day - daysBeforeMonth month + 1⟩

/-- A day of the year lies in a month that has it, the leap day in a February
of 29 days. -/
theorem inCalendar_ofDayOfYear {year : Int} {day : Nat}
    (h : day ≤ 364 ∨ day = 365 ∧ isLeapYear (year + 1) = true) :
    (ofDayOfYear year day).InCalendar := by
  unfold ofDayOfYear daysBeforeMonth
  obtain ⟨month, hmonth⟩ : ∃ month, (5 * day + 2) / 153 = month := ⟨_, rfl⟩
  have hbound : month < 12 := by omega
  rw [hmonth]
  dsimp only
  by_cases hearly : month < 10
  · rw [if_pos hearly]
    refine ⟨Nat.le_add_left 1 (month + 2), by dsimp only; omega,
      Nat.succ_pos _, ?_⟩
    unfold daysInMonth
    interval_cases month <;> simp <;> omega
  · rw [if_neg hearly]
    obtain rfl | rfl : month = 10 ∨ month = 11 := by omega
    · refine ⟨Nat.le_refl 1, Nat.le_add_right 1 11, Nat.succ_pos _, ?_⟩
      simp [daysInMonth]
      omega
    · refine ⟨Nat.le_succ 1, Nat.le_add_right 2 10, Nat.succ_pos _, ?_⟩
      simp only [daysInMonth, Nat.reduceSub, reduceIte]
      rcases h with hordinary | ⟨hday, hleap⟩
      · split <;> omega
      · rw [if_pos hleap, hday]

theorem toDays_ofDayOfYear {year : Int} {day : Nat} (h : day ≤ 365) :
    (ofDayOfYear year day).toDays = daysBeforeMarch year + day - 719468 := by
  unfold ofDayOfYear toDays marchYear marchMonth daysBeforeMonth
  obtain ⟨month, hmonth⟩ : ∃ month, (5 * day + 2) / 153 = month := ⟨_, rfl⟩
  have hstart : (153 * month + 2) / 5 ≤ day := by omega
  rw [hmonth]
  dsimp only
  by_cases hearly : month < 10
  · have hmarch : (month + 3 + 9) % 12 = month := by omega
    rw [if_pos hearly]
    dsimp only
    rw [if_neg (by omega), hmarch]
    omega
  · have hmarch : (month - 9 + 9) % 12 = month := by omega
    rw [if_neg hearly]
    dsimp only
    rw [if_pos (by omega), hmarch, add_sub_cancel_right]
    omega

theorem daysBeforeMarch_add_era (year : Nat) (hyear : year ≤ 399) (era : Int) :
    daysBeforeMarch (year + 400 * era) =
      146097 * era + (365 * year + year / 4 - year / 100 : Nat) := by
  unfold daysBeforeMarch
  omega

theorem ofDays_eq {number era : Int} {day : Nat}
    (hera : (number + 719468) / 146097 = era)
    (hday : ((number + 719468) % 146097).toNat = day) :
    ofDays number = ofDayOfYear (yearOfEra day + 400 * era) (dayOfYear day) := by
  subst hera hday
  rfl

/-- The date of a number stands in the calendar and has that number. -/
theorem ofDays_spec (number : Int) :
    (ofDays number).InCalendar ∧ (ofDays number).toDays = number := by
  obtain ⟨era, hera⟩ : ∃ era, (number + 719468) / 146097 = era := ⟨_, rfl⟩
  obtain ⟨day, hday⟩ : ∃ day, ((number + 719468) % 146097).toNat = day :=
    ⟨_, rfl⟩
  obtain ⟨hyear, hsum, hlength⟩ :=
    dayOfYear_spec (show day < 146097 by omega) era
  rw [ofDays_eq hera hday]
  refine ⟨inCalendar_ofDayOfYear hlength, ?_⟩
  rw [toDays_ofDayOfYear (by omega), daysBeforeMarch_add_era _ hyear]
  omega

theorem inCalendar_ofDays (number : Int) : (ofDays number).InCalendar :=
  (ofDays_spec number).1

@[simp] theorem toDays_ofDays (number : Int) :
    (ofDays number).toDays = number :=
  (ofDays_spec number).2

theorem ofDays_toDays (h : d.InCalendar) : ofDays d.toDays = d :=
  eq_of_toDays_eq (inCalendar_ofDays _) h (toDays_ofDays _)

/-! ## Years -/

theorem InCalendar.first_le_iff (h : d.InCalendar) (year : Int) :
    (Date.mk year 1 1).toDays ≤ d.toDays ↔ year ≤ d.year := by
  have hfirst : (Date.mk year 1 1).InCalendar := by
    constructor <;> simp [daysInMonth]
  have hindex : (Date.mk year 1 1).monthIndex = year * 12 := by
    simp [monthIndex]
  have hyear := h.monthIndex_ediv
  constructor
  · intro hle
    by_contra hbefore
    have hlt := toDays_lt_of_monthIndex_lt h hfirst (by omega)
    omega
  · intro hle
    have hstart : monthStart (year * 12) ≤ monthStart d.monthIndex :=
      monthStart_le (by omega)
    have hday := h.day_pos
    rw [hfirst.toDays_eq, h.toDays_eq, hindex]
    dsimp only
    omega

theorem InCalendar.le_last_iff (h : d.InCalendar) (year : Int) :
    d.toDays ≤ (Date.mk year 12 31).toDays ↔ d.year ≤ year := by
  have hlast : (Date.mk year 12 31).InCalendar := by
    constructor <;> simp [daysInMonth]
  have hindex : (Date.mk year 12 31).monthIndex = year * 12 + 11 := by
    simp [monthIndex]
  have hyear := h.monthIndex_ediv
  constructor
  · intro hle
    by_contra hbehind
    have hlt := toDays_lt_of_monthIndex_lt hlast h (by omega)
    omega
  · intro hle
    rcases lt_or_eq_of_le (show d.monthIndex ≤ year * 12 + 11 by omega) with
      hlt | heq
    · exact (toDays_lt_of_monthIndex_lt h hlast (by omega)).le
    · have hlength := hlast.day_le
      have hday := h.day_le_monthLength
      have hmonth : monthLength (year * 12 + 11) = 31 := by
        simp [monthLength, daysInMonth]
      rw [hlast.toDays_eq, h.toDays_eq, hindex, heq]
      rw [heq, hmonth] at hday
      dsimp only
      omega

end Date

/-! ## Instants -/

namespace Instant

theorem inCalendar_date (x : Instant) : x.date.InCalendar :=
  Date.inCalendar_ofDays _

theorem toDays_date (x : Instant) : x.date.toDays = x.seconds / 86400 :=
  Date.toDays_ofDays _

theorem secondOfDay_lt (x : Instant) : x.secondOfDay < 86400 := by
  unfold secondOfDay
  omega

theorem inRange_iff (x : Instant) : x.inRange = true ↔ x.date.Valid := by
  unfold inRange
  rw [decide_eq_true_iff, ← x.toDays_date, x.inCalendar_date.first_le_iff,
    x.inCalendar_date.le_last_iff, Date.valid_iff]
  simp [x.inCalendar_date]

theorem ofDate_date (x : Instant) : ofDate x.date x.secondOfDay x.nanos = x := by
  unfold ofDate secondOfDay
  rw [x.toDays_date]
  obtain ⟨seconds, nanos⟩ := x
  simp
  omega

theorem date_ofDate {date : Date} (h : date.InCalendar) {second : Int}
    (hsecond : 0 ≤ second ∧ second < 86400) (nanos : Nat) :
    (ofDate date second nanos).date = date := by
  have hday : (date.toDays * 86400 + second) / 86400 = date.toDays := by
    omega
  unfold ofDate Instant.date
  rw [hday, Date.ofDays_toDays h]

theorem secondOfDay_ofDate (date : Date) {second : Nat}
    (hsecond : second < 86400) (nanos : Nat) :
    (ofDate date second nanos).secondOfDay = second := by
  unfold ofDate secondOfDay
  dsimp only
  omega

end Instant

end RecordRules.Time
