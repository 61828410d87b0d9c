/-!
# The calendar

Dates of the proleptic Gregorian calendar and the day number of each, counted from the first day
of 1970.  Years count from March for the arithmetic, so that a leap day ends its year.
-/

namespace RecordRules.Time

/-- A date by year, month and day of month. -/
structure Date where
  year : Int
  month : Nat
  day : Nat
  deriving DecidableEq, Repr, Inhabited

def isLeapYear (year : Int) : Bool :=
  year % 4 == 0 && (year % 100 != 0 || year % 400 == 0)

def daysInMonth (year : Int) (month : Nat) : Nat :=
  if month = 2 then (if isLeapYear year then 29 else 28)
  else if month = 4 ∨ month = 6 ∨ month = 9 ∨ month = 11 then 30
  else 31

/-- The first year that is represented. -/
def firstYear : Int := -262143

/-- The last year that is represented. -/
def lastYear : Int := 262142

namespace Date

/-- The date exists and its year is represented. -/
def Valid (d : Date) : Prop :=
  firstYear ≤ d.year ∧ d.year ≤ lastYear ∧ 1 ≤ d.month ∧ d.month ≤ 12 ∧ 1 ≤ d.day
    ∧ d.day ≤ daysInMonth d.year d.month

instance (d : Date) : Decidable d.Valid := inferInstanceAs (Decidable (_ ∧ _))

/-- The year that began in March, in which the date lies. -/
def marchYear (d : Date) : Int := if d.month ≤ 2 then d.year - 1 else d.year

/-- Months since March. -/
def marchMonth (d : Date) : Nat := (d.month + 9) % 12

/-- Days from the first of March of year zero to the first of March of the given year. -/
def daysBeforeMarch (year : Int) : Int := 365 * year + year / 4 - year / 100 + year / 400

/-- Days from the first of March to the first of the month so many months later. -/
def daysBeforeMonth (month : Nat) : Nat := (153 * month + 2) / 5

/-- The number of the day, zero for the first day of 1970. -/
def toDays (d : Date) : Int :=
  daysBeforeMarch d.marchYear + daysBeforeMonth d.marchMonth + d.day - 1 - 719468

def ofDays (number : Int) : Date :=
  let shifted := number + 719468
  let era := shifted / 146097
  let dayOfEra := (shifted % 146097).toNat
  let yearOfEra := (dayOfEra - dayOfEra / 1460 + dayOfEra / 36524 - dayOfEra / 146096) / 365
  let dayOfYear := dayOfEra - (365 * yearOfEra + yearOfEra / 4 - yearOfEra / 100)
  let month := (5 * dayOfYear + 2) / 153
  let day := dayOfYear - daysBeforeMonth month + 1
  let year : Int := yearOfEra + 400 * era
  if month < 10 then ⟨year, month + 3, day⟩ else ⟨year + 1, month - 9, day⟩

/-- Months from January of year zero. -/
def monthIndex (d : Date) : Int := d.year * 12 + (d.month - 1 : Nat)

/-- The date so many months later, on the last day of a month that is too short. -/
def addMonths (d : Date) (months : Nat) : Date :=
  let index := d.monthIndex + months
  let year := index / 12
  let month := (index % 12).toNat + 1
  ⟨year, month, min d.day (daysInMonth year month)⟩

end Date

end RecordRules.Time
