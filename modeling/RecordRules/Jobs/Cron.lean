import RecordRules.Number.Digits
import RecordRules.Text.Ascii
import RecordRules.Text.Blank
import RecordRules.Text.Lowercase
import RecordRules.Text.Split

/-!
# Cron expressions

A schedule is a line of six fields, seconds first, for minutes, hours, days, months and days of
the week.  An expression of five fields gets the second zero.  Here it is only decided whether an
expression can be a schedule.
-/

namespace RecordRules.Cron

/-- The expression without blanks at its ends, with a field for seconds before five others. -/
def normalize (expression : String) : String :=
  let expression := Text.trim expression
  if Text.wordCount expression = 5 then "0 " ++ expression else expression

/-- What a number in a field stands for, beside itself. -/
inductive Mark where
  | plain
  /-- The last one of its kind. -/
  | last
  /-- The first to fifth one in a month. -/
  | nth
  /-- The working day nearest to it. -/
  | nearest
  deriving DecidableEq, Repr

/-- A field: the range of its numbers, and what they may stand for. -/
structure Field where
  low : Nat
  high : Nat
  marks : List Mark

def fields : List Field :=
  [⟨0, 59, [.last]⟩, ⟨0, 59, [.last]⟩, ⟨0, 23, [.last]⟩, ⟨1, 31, [.last, .nearest]⟩,
   ⟨1, 12, [.last]⟩, ⟨0, 7, [.last, .nth]⟩]

def number? (s : String) : Option Nat := Number.readBelow? 256 s

namespace Field

def allows (field : Field) (mark : Mark) : Bool := mark == .plain || field.marks.contains mark

/-- Do the bounds lie in order within the field's range? -/
def spans (field : Field) (low high : Nat) : Bool :=
  decide (field.low ≤ low ∧ low ≤ high ∧ high ≤ field.high)

end Field

def markOf? (item : List Char) : Option Mark :=
  if item.getLast? = some 'l' then some .last
  else
    match Text.cutChars '#' item with
    | none => some .plain
    | some (_, nth) =>
      (number? (String.ofList nth)).bind fun n => if 1 ≤ n ∧ n ≤ 5 then some .nth else none

/-- The part of an item before its number sign. -/
def unmarked (item : List Char) : String := String.ofList (item.takeWhile (· != '#'))

/-- A single number with its letter for the last one set off by a number sign. -/
def setOff (item : List Char) : List Char :=
  if item.getLast? = some 'l' ∧ !item.contains '#' then
    item.flatMap fun c => if c == 'l' then ['#', 'l'] else [c]
  else item

/-- Is an item a single number?  Only where the first to fifth can be asked for may it be marked. -/
def isNumber (field : Field) (item : List Char) : Bool :=
  let item := setOff item
  match markOf? item, number? (unmarked item) with
  | some mark, some n =>
    field.allows mark && field.spans n n && (field.allows .nth || !item.contains '#')
  | _, _ => false

def range? (s : String) : Option (Nat × Nat) :=
  match Text.splitAt '-' s with
  | [low, high] =>
    match number? low, number? high with
    | some low, some high => some (low, high)
    | _, _ => none
  | _ => none

def isRange (field : Field) (item : List Char) : Bool :=
  match markOf? item, range? (unmarked item) with
  | some mark, some (low, high) => field.allows mark && field.spans low high
  | _, _ => false

/-- Is an item a day with the mark for the nearest working day? -/
def isNearest (field : Field) (item : List Char) : Bool :=
  match number? (String.ofList (item.takeWhile fun c => c != 'w')) with
  | some n => field.allows .nearest && field.spans n n
  | none => false

/-- The bounds that a stepped item begins with: all, a range, or from a number on. -/
def stepBounds? (field : Field) (s : String) : Option (Nat × Nat) :=
  if s = "*" then some (field.low, field.high)
  else if s.toList.contains '-' then range? s
  else (number? s).map fun low => (low, field.high)

/-- Is an item a range with a step?  Stepping beyond the range must stay below 256. -/
def isStepped (field : Field) (item : List Char) : Bool :=
  match markOf? item, Text.splitAt '/' (unmarked item) with
  | some mark, [bounds, step] =>
    match stepBounds? field bounds, number? step with
    | some (low, high), some step =>
      field.allows mark && field.spans low high
        && decide (0 < step ∧ low + step * ((high - low) / step + 1) < 256)
    | _, _ => false
  | _, _ => false

/-- Can the text be an item of the field's list? -/
def isItem (field : Field) (item : List Char) : Bool :=
  if item.isEmpty then true
  else if item.contains '/' then isStepped field item
  else if item.contains '-' then isRange field item
  else if item.contains 'w' then isNearest field item
  else if item = ['l'] then field.allows .last
  else isNumber field item

def isField (field : Field) (s : String) : Bool :=
  s == "*" || (Text.splitAt ',' s).all fun item => isItem field item.toList

/-- Every occurrence of a name replaced by a number. -/
def replaceName (name number : List Char) : Nat → List Char → List Char
  | 0, cs => cs
  | fuel + 1, cs =>
    match Text.afterStart? cs name, cs with
    | some rest, _ => number ++ replaceName name number fuel rest
    | none, c :: rest => c :: replaceName name number fuel rest
    | none, [] => []

/-- The names with their numbers, in the order of replacement: days of the week, then months.
Sunday is seven at the end of a range. -/
def names : List (String × String) :=
  [("-sun", "-7"), ("sun", "0"), ("mon", "1"), ("tue", "2"), ("wed", "3"), ("thu", "4"),
   ("fri", "5"), ("sat", "6"), ("jan", "1"), ("feb", "2"), ("mar", "3"), ("apr", "4"),
   ("may", "5"), ("jun", "6"), ("jul", "7"), ("aug", "8"), ("sep", "9"), ("oct", "10"),
   ("nov", "11"), ("dec", "12")]

/-- All names in the text replaced by their numbers, wherever they stand. -/
def replaceNames (cs : List Char) : List Char :=
  names.foldl
    (fun cs entry => replaceName entry.1.toList entry.2.toList cs.length cs) cs

/-- Common schedules that go by a name. -/
def nicknames : List (String × List String) :=
  [("@yearly", ["0", "0", "0", "1", "1", "*"]), ("@annually", ["0", "0", "0", "1", "1", "*"]),
   ("@monthly", ["0", "0", "0", "1", "*", "*"]), ("@weekly", ["0", "0", "0", "*", "*", "0"]),
   ("@daily", ["0", "0", "0", "*", "*", "*"]), ("@hourly", ["0", "0", "*", "*", "*", "*"])]

/-- The fields of an expression, without regard to case; a question mark stands for all. -/
def parts (expression : String) : List String :=
  let expression := Text.lowercase (Text.trim expression)
  match nicknames.lookup expression with
  | some found => found
  | none =>
    let cs := expression.toList.map fun c => if c = '?' then '*' else c
    Text.words (String.ofList (replaceNames cs))

def isValid (expression : String) : Bool :=
  let found := parts expression
  found.length == fields.length && (fields.zip found).all fun (field, s) => isField field s

end RecordRules.Cron
