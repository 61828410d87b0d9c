import RecordRules.Domain.CompositionTable
import RecordRules.Domain.Mapping

/-!
# Composition of letters and marks

A letter with marks can be one character or several.  Composing takes every character apart, puts
the marks behind a letter in order of their classes, and makes of letters and marks the single
characters that there are.  The syllables of Korean are computed, all else comes from the table.
-/

namespace RecordRules.Domain

/-- A letter, a mark, and what they make. -/
structure Pair where
  letter : Nat
  mark : Nat
  whole : Nat
  deriving DecidableEq, Repr

def Pair.ofText (entry : String) : Pair :=
  let (parts, whole) := (Text.cut '>' entry).getD (entry, "")
  let (letter, mark) := (Text.cut '+' parts).getD (parts, "")
  ⟨hexNumber letter, hexNumber mark, hexNumber whole⟩

/-- All letters with marks that are one character. -/
def pairs : List Pair := pairText.flatMap fun line => (Text.words line).map Pair.ofText

/-- A run of marks of one class. -/
structure MarkRun where
  first : Nat
  last : Nat
  markClass : Nat
  deriving DecidableEq, Repr

def MarkRun.ofText (entry : String) : MarkRun :=
  let (run, markClass) := (Text.cut '>' entry).getD (entry, "")
  let (first, last) := (Text.cut '-' run).getD (run, run)
  ⟨hexNumber first, hexNumber last, hexNumber markClass⟩

def markRuns : List MarkRun :=
  classText.flatMap fun line => (Text.words line).map MarkRun.ofText

/-- The class of a mark; zero for all that is none. -/
def markClass (code : Nat) : Nat :=
  let run := markRuns.find? fun run => decide (run.first ≤ code ∧ code ≤ run.last)
  (run.map MarkRun.markClass).getD 0

def syllableParts (code : Nat) : List Nat :=
  let place := code - 0xAC00
  let parts := [0x1100 + place / 588, 0x1161 + place % 588 / 28]
  if place % 28 = 0 then parts else parts ++ [0x11A7 + place % 28]

/-- The parts of a character; the argument bounds how often parts have parts themselves. -/
def partsOf : Nat → Nat → List Nat
  | 0, code => [code]
  | depth + 1, code =>
    if 0xAC00 ≤ code ∧ code ≤ 0xD7A3 then syllableParts code
    else
      match pairs.find? (·.whole == code) with
      | some pair => partsOf depth pair.letter ++ [pair.mark]
      | none => [code]

/-- Puts a mark into its place before marks of no lower class; letters stay where they are. -/
def insertMark (code : Nat) : List Nat → List Nat
  | [] => [code]
  | other :: rest =>
    if markClass other = 0 ∨ markClass code ≤ markClass other then code :: other :: rest
    else other :: insertMark code rest

/-- The characters with the marks behind each letter in order. -/
def orderMarks : List Nat → List Nat
  | [] => []
  | code :: rest =>
    let ordered := orderMarks rest
    if markClass code = 0 then code :: ordered else insertMark code ordered

/-- What two characters make. -/
def compose? (first second : Nat) : Option Nat :=
  if 0x1100 ≤ first ∧ first ≤ 0x1112 ∧ 0x1161 ≤ second ∧ second ≤ 0x1175 then
    some (0xAC00 + (first - 0x1100) * 588 + (second - 0x1161) * 28)
  else if 0xAC00 ≤ first ∧ first ≤ 0xD7A3 ∧ (first - 0xAC00) % 28 = 0
      ∧ 0x11A8 ≤ second ∧ second ≤ 0x11C2 then
    some (first + (second - 0x11A7))
  else
    (pairs.find? fun pair => pair.letter == first && pair.mark == second).map Pair.whole

/-- Joins to a letter what follows it; the characters between it and the next one come in reverse.
A character is kept from the letter by one of its own or a higher class. -/
def composeOnto (letter : Nat) (between : List Nat) : List Nat → List Nat
  | [] => letter :: between.reverse
  | code :: rest =>
    let isKeptOff := match between with
      | [] => false
      | last :: _ => decide (markClass last = 0 ∨ markClass code ≤ markClass last)
    match if isKeptOff then none else compose? letter code with
    | some whole => composeOnto whole between rest
    | none =>
      if markClass code = 0 then letter :: between.reverse ++ composeOnto code [] rest
      else composeOnto letter (code :: between) rest

/-- Composes characters that have been taken apart and put in order. -/
def composeOrdered : List Nat → List Nat
  | [] => []
  | code :: rest =>
    if markClass code = 0 then composeOnto code [] rest else code :: composeOrdered rest

/-- The characters with letters and marks composed. -/
def compose (cs : List Char) : List Char :=
  if cs.all fun c => c.toNat < 128 then cs
  else
    let parts := cs.flatMap fun c => if c.toNat < 128 then [c.toNat] else partsOf 4 c.toNat
    (composeOrdered (orderMarks parts)).map Char.ofNat

def isMark (c : Char) : Bool :=
  Text.inRanges Text.combiningRanges c.toNat || Text.inRanges spacingMarkRanges c.toNat

end RecordRules.Domain
