import RecordRules.Time.Scan

/-!
# Timestamps

The forms in which a timestamp may be given.  A literal is tried as RFC 3339 first, then as a
date with a time of day in universal time, then as a date alone.  Stored messages use a looser
form of RFC 3339, which allows blanks between the parts.
-/

namespace RecordRules.Time

/-- Nothing may follow. -/
def atEnd : List Char → Except TimeFault Unit
  | [] => .ok ()
  | _ :: _ => .error .tooLong

/-- Reads RFC 3339; a space may stand between date and time. -/
def readRfc3339 (cs : List Char) : Except TimeFault Instant := do
  let (year, cs) ← Scan.number 4 4 cs
  let cs ← Scan.mark '-' cs
  let (month, cs) ← Scan.strictNumber 1 12 cs
  let cs ← Scan.mark '-' cs
  let (day, cs) ← Scan.strictNumber 1 31 cs
  let cs ← Scan.separator cs
  let (hour, cs) ← Scan.strictNumber 0 23 cs
  let cs ← Scan.mark ':' cs
  let (minute, cs) ← Scan.strictNumber 0 59 cs
  let cs ← Scan.mark ':' cs
  let (second, cs) ← Scan.strictNumber 0 60 cs
  let (nanos, cs) ← Scan.optionalFraction cs
  let (offset, cs) ← Scan.offset (Scan.mark ':') cs
  atEnd cs
  Reading.instant ⟨⟨year, month, day⟩, hour, minute, second, nanos⟩ offset

def readLooseDate (cs : List Char) : Except TimeFault (Date × List Char) := do
  let (year, cs) ← Scan.looseYear cs
  let cs ← Scan.mark '-' cs
  let (month, cs) ← Scan.looseNumber 1 12 cs
  let cs ← Scan.mark '-' cs
  let (day, cs) ← Scan.looseNumber 1 31 cs
  return (⟨year, month, day⟩, cs)

def readLooseMinute (cs : List Char) : Except TimeFault (Nat × Nat × List Char) := do
  let (hour, cs) ← Scan.looseNumber 0 23 cs
  let cs ← Scan.mark ':' cs
  let (minute, cs) ← Scan.looseNumber 0 59 cs
  return (hour, minute, cs)

/-- Reads a date and a time of day to the second, parted as the argument says. -/
def readDateTime (part : List Char → Except TimeFault (List Char)) (cs : List Char) :
    Except TimeFault Instant := do
  let (date, cs) ← readLooseDate cs
  let cs ← part cs
  let (hour, minute, cs) ← readLooseMinute cs
  let cs ← Scan.mark ':' cs
  let (second, cs) ← Scan.looseNumber 0 60 cs
  atEnd cs
  Reading.instant ⟨date, hour, minute, second, 0⟩ 0

/-- Reads a date and a time of day to the minute, blanks or nothing between them. -/
def readDateMinute (cs : List Char) : Except TimeFault Instant := do
  let (date, cs) ← readLooseDate cs
  let (hour, minute, cs) ← readLooseMinute (Text.trimStart cs)
  atEnd cs
  Reading.instant ⟨date, hour, minute, 0, 0⟩ 0

/-- Reads a date alone, which stands for its midnight. -/
def readDate (cs : List Char) : Except TimeFault Instant := do
  let (date, cs) ← readLooseDate cs
  atEnd cs
  Reading.instant ⟨date, 0, 0, 0, 0⟩ 0

/-- The forms of a timestamp literal in the order in which they are tried. -/
def literalForms : List (List Char → Except TimeFault Instant) :=
  [readRfc3339, readDateTime fun cs => .ok (Text.trimStart cs), readDateTime (Scan.mark 'T'),
   readDateMinute, readDate]

/-- The instant a literal denotes, if it is a timestamp. -/
def readTimestamp (s : String) : Option Instant :=
  let cs := Text.trimChars s.toList
  literalForms.findSome? fun form => (form cs).toOption

/-- Steps over colons and blanks. -/
def skipColons (cs : List Char) : Except TimeFault (List Char) :=
  .ok (cs.dropWhile fun c => c = ':' || Text.isBlank c)

def readStored (s : String) : Except TimeFault Instant := do
  let (year, cs) ← Scan.looseYear s.toList
  let cs ← Scan.mark '-' (Text.trimStart cs)
  let (month, cs) ← Scan.looseNumber 1 12 cs
  let cs ← Scan.mark '-' (Text.trimStart cs)
  let (day, cs) ← Scan.looseNumber 1 31 cs
  let cs ← Scan.separator cs
  let (hour, cs) ← Scan.looseNumber 0 23 cs
  let cs ← Scan.mark ':' (Text.trimStart cs)
  let (minute, cs) ← Scan.looseNumber 0 59 cs
  let cs ← Scan.mark ':' (Text.trimStart cs)
  let (second, cs) ← Scan.looseNumber 0 60 cs
  let (nanos, cs) ← Scan.optionalFraction cs
  let cs := Text.trimStart cs
  let (offset, cs) ← match cs with
    | a :: b :: c :: rest =>
      if (a = 'U' ∨ a = 'u') ∧ (b = 'T' ∨ b = 't') ∧ (c = 'C' ∨ c = 'c') then pure (0, rest)
      else Scan.offset skipColons cs
    | _ => Scan.offset skipColons cs
  atEnd (Text.trimStart cs)
  Reading.instant ⟨⟨year, month, day⟩, hour, minute, second, nanos⟩ offset

end RecordRules.Time
