import RecordRules.Domain.Composition
import RecordRules.Domain.DirectionTable

/-!
# Direction and joining

A name that has letters written from right to left is only well formed if none of its labels could
be displayed in two ways.  The invisible characters that join or part letters may stand only where
they change how the letters look.
-/

namespace RecordRules.Domain

/-- The direction in which a character is written. -/
inductive Direction where
  | left
  | right
  /-- A digit that reads from left to right everywhere. -/
  | digit
  /-- A digit of a script that is written from right to left. -/
  | rightDigit
  | neutral
  /-- A mark that takes no space has the direction of its letter. -/
  | mark
  deriving DecidableEq, Repr

def Direction.ofChar (c : Char) : Direction :=
  let code := c.toNat
  if Text.inRanges leftMarkRanges code then .left
  else if Text.inRanges Text.combiningRanges code then .mark
  else if Text.inRanges digitRanges code then .digit
  else if Text.inRanges rightToLeftDigitRanges code then .rightDigit
  else if Text.inRanges rightToLeftRanges code then .right
  else if Text.inRanges neutralRanges code then .neutral
  else .left

/-- Is there a character in the label that is written from right to left? -/
def isRightToLeft (label : List Char) : Bool :=
  label.any fun c => Direction.ofChar c == .right || Direction.ofChar c == .rightDigit

/-- The direction of the last character that is no mark. -/
def lastDirection? (directions : List Direction) : Option Direction :=
  directions.reverse.find? (· != .mark)

/-- Has the label one way to be displayed only?  It begins with a letter, holds none of the other
direction and digits of one kind, and ends with a letter or a digit. -/
def hasOneDirection (label : List Char) : Bool :=
  let directions := label.map Direction.ofChar
  match directions with
  | [] => true
  | .right :: _ =>
    directions.all (· != .left)
      && !(directions.contains .digit && directions.contains .rightDigit)
      && (lastDirection? directions).all (· != .neutral)
  | .left :: _ =>
    directions.all (fun direction => direction != .right && direction != .rightDigit)
      && (lastDirection? directions).all (· != .neutral)
  | _ => false

/-- Can the label stand in a name where some label is written from right to left? -/
def areDisplayable (labels : List (List Char)) : Bool :=
  !labels.any isRightToLeft || labels.all hasOneDirection

def parting : Char := Char.ofNat 0x200C

def joining : Char := Char.ofNat 0x200D

/-- Does the first character that joins at all do so on the side of which the ranges tell? -/
def joinsBy (ranges : List (Nat × Nat)) (cs : List Char) : Bool :=
  match cs.find? fun c => Direction.ofChar c != .mark with
  | some c => Text.inRanges joiningRanges c.toNat || Text.inRanges ranges c.toNat
  | none => false

/-- Do the joining and parting characters stand where they may?  That is behind a mark that strips
a letter of its vowel, and for the parting one also between letters that would join.  The
characters before come in reverse. -/
def areJoinersPlaced (before : List Char) : List Char → Bool
  | [] => true
  | c :: rest =>
    let isBehindStrip := match before with
      | last :: _ => markClass last.toNat == 9
      | [] => false
    let isPlaced :=
      if c = joining then isBehindStrip
      else if c = parting then
        isBehindStrip || (joinsBy leftJoiningRanges before && joinsBy rightJoiningRanges rest)
      else true
    isPlaced && areJoinersPlaced (c :: before) rest

end RecordRules.Domain
