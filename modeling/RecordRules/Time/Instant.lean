import RecordRules.Number.Digits
import RecordRules.Time.Calendar

/-!
# Instants

A moment of universal time in seconds and nanoseconds.  A leap second is the last second of its
minute with a thousand million nanoseconds and more, so that the order of the pairs is the order
in time.
-/

namespace RecordRules.Time

/-- Seconds since the beginning of 1970 and nanoseconds; from 10⁹ on they lie in a leap second. -/
structure Instant where
  seconds : Int
  nanos : Nat
  deriving DecidableEq, Repr, Inhabited

namespace Instant

def nanosPerSecond : Nat := 1000000000

def compare (a b : Instant) : Ordering :=
  if a.seconds < b.seconds then .lt
  else if b.seconds < a.seconds then .gt
  else if a.nanos < b.nanos then .lt
  else if b.nanos < a.nanos then .gt
  else .eq

/-- Is the first instant not after the second? -/
def notAfter (a b : Instant) : Bool :=
  decide (a.seconds < b.seconds ∨ (a.seconds = b.seconds ∧ a.nanos ≤ b.nanos))

/-- The instant of a date, a second of the day and nanoseconds. -/
def ofDate (date : Date) (secondOfDay : Int) (nanos : Nat) : Instant :=
  ⟨date.toDays * 86400 + secondOfDay, nanos⟩

def date (x : Instant) : Date := Date.ofDays (x.seconds / 86400)

def secondOfDay (x : Instant) : Nat := (x.seconds % 86400).toNat

def inRange (x : Instant) : Bool :=
  let day := x.seconds / 86400
  decide ((Date.mk firstYear 1 1).toDays ≤ day ∧ day ≤ (Date.mk lastYear 12 31).toDays)

/-- The instant so many seconds later, unless that is not represented.  A leap second is left by
counting on from the second before it, or back from the one after it. -/
def addSeconds (x : Instant) (seconds : Int) : Option Instant :=
  let sum : Instant :=
    if x.nanos < nanosPerSecond ∨ seconds = 0 then ⟨x.seconds + seconds, x.nanos⟩
    else if 0 < seconds then ⟨x.seconds + seconds, x.nanos - nanosPerSecond⟩
    else ⟨x.seconds + seconds + 1, x.nanos - nanosPerSecond⟩
  if sum.inRange then some sum else none

/-- The instant of seconds and any number of nanoseconds, whole seconds of which are carried. -/
def carry (seconds nanos : Int) : Instant :=
  ⟨seconds + nanos / nanosPerSecond, (nanos % nanosPerSecond).toNat⟩

/-- The instant so many nanoseconds later, unless that is not represented.  A leap second is left
as by whole seconds, and also when the amount leads beyond its end; a smaller amount stays in it. -/
def addNanos (x : Instant) (amount : Int) : Option Instant :=
  let second : Int := nanosPerSecond
  let sum : Instant :=
    if x.nanos < nanosPerSecond then carry x.seconds (x.nanos + amount)
    else if second ≤ amount ∨ (0 < amount ∧ 2 * second ≤ x.nanos + amount) then
      carry x.seconds (x.nanos - second + amount)
    else if amount ≤ -second then carry (x.seconds + 1) (x.nanos - second + amount)
    else ⟨x.seconds, (x.nanos + amount).toNat⟩
  if sum.inRange then some sum else none

/-- The same time of day so many months later, unless that is not represented. -/
def addMonths (x : Instant) (months : Nat) : Option Instant :=
  let date := x.date.addMonths months
  if date.Valid then some (ofDate date x.secondOfDay x.nanos) else none

/-- The decimal fraction of a second in the fewest of none, three, six or nine digits. -/
def fractionText (nanos : Nat) : String :=
  if nanos = 0 then ""
  else if nanos % 1000000 = 0 then "." ++ Number.padded 3 (nanos / 1000000)
  else if nanos % 1000 = 0 then "." ++ Number.padded 6 (nanos / 1000)
  else "." ++ Number.padded 9 nanos

/-- A year in four digits; other years carry a sign. -/
def yearText (year : Int) : String :=
  if 0 ≤ year ∧ year ≤ 9999 then Number.padded 4 year.toNat
  else (if year < 0 then "-" else "+") ++ Number.padded 4 year.natAbs

/-- Date and time of day without an offset. -/
def localText (x : Instant) : String :=
  let date := x.date
  let second := x.secondOfDay
  let leap := if nanosPerSecond ≤ x.nanos then 1 else 0
  yearText date.year ++ "-" ++ Number.padded 2 date.month ++ "-" ++ Number.padded 2 date.day ++ "T"
    ++ Number.padded 2 (second / 3600) ++ ":" ++ Number.padded 2 (second / 60 % 60) ++ ":"
    ++ Number.padded 2 (second % 60 + leap) ++ fractionText (x.nanos % nanosPerSecond)

/-- The instant as RFC 3339 writes it, with the offset zero in digits. -/
def text (x : Instant) : String := x.localText ++ "+00:00"

/-- The instant as RFC 3339 writes it, with the letter for universal time. -/
def zuluText (x : Instant) : String := x.localText ++ "Z"

end Instant

end RecordRules.Time
