import RecordRules.Json.Basic
import RecordRules.Json.ReadError
import RecordRules.Number.Power
import RecordRules.Text.Ascii

/-!
# Reading JSON text

A reader over the characters of a text.  Positions are kept as line and column while reading, so
that a fault can say where it is.  Values may nest 127 deep.  A number keeps the digits that fit
into 64 bits and is then scaled by one power of ten.
-/

namespace RecordRules
namespace Json

/-- The unread characters and where they begin. -/
structure Cursor where
  rest : List Char
  line : Nat
  column : Nat
  deriving Repr

namespace Cursor

def ofText (s : String) : Cursor := ⟨s.toList, 1, 0⟩

/-- The cursor behind its first character `c`. -/
def behind (cursor : Cursor) (c : Char) (rest : List Char) : Cursor :=
  if c = '\n' then ⟨rest, cursor.line + 1, 0⟩
  else ⟨rest, cursor.line, cursor.column + c.utf8Size⟩

def here (cursor : Cursor) (fault : ReadFault) : ReadError := ⟨fault, cursor.line, cursor.column⟩

/-- A fault one byte further on, if there is one. -/
def ahead (cursor : Cursor) (fault : ReadFault) : ReadError :=
  match cursor.rest with
  | [] => cursor.here fault
  | '\n' :: _ => ⟨fault, cursor.line + 1, 0⟩
  | _ :: _ => ⟨fault, cursor.line, cursor.column + 1⟩

/-- Line and column so many bytes further on, within a character if need be. -/
def bytesOn (line column : Nat) : Nat → List Char → Nat × Nat
  | _, [] => (line, column)
  | bytes, c :: rest =>
    if bytes < c.utf8Size then (line, column + bytes)
    else if c = '\n' then bytesOn (line + 1) 0 (bytes - 1) rest
    else bytesOn line (column + c.utf8Size) (bytes - c.utf8Size) rest

def after (cursor : Cursor) (bytes : Nat) (fault : ReadFault) : ReadError :=
  let (line, column) := bytesOn cursor.line cursor.column bytes cursor.rest
  ⟨fault, line, column⟩

def bytesLeft (cursor : Cursor) : Nat := 
  cursor.rest.foldr (fun c count => c.utf8Size + count) 0

/-- Skips the four blanks of JSON. -/
def skipBlanks (line column : Nat) : List Char → Cursor
  | [] => ⟨[], line, column⟩
  | c :: rest =>
    if c = '\n' then skipBlanks (line + 1) 0 rest
    else if c = ' ' ∨ c = '\t' ∨ c = '\r' then skipBlanks line (column + 1) rest
    else ⟨c :: rest, line, column⟩

/-- The cursor at the next character that is not blank. -/
def skip (cursor : Cursor) : Cursor := skipBlanks cursor.line cursor.column cursor.rest

def digits (cursor : Cursor) : List Char × Cursor :=
  let ds := cursor.rest.takeWhile Char.isDigit
  (ds, ⟨cursor.rest.dropWhile Char.isDigit, cursor.line, cursor.column + ds.length⟩)

/-- Steps over a character known to be first. -/
def step (cursor : Cursor) : Cursor :=
  match cursor.rest with
  | [] => cursor
  | c :: rest => cursor.behind c rest

end Cursor

def readKeyword (value : Json) : List Char → Cursor → Except ReadError (Json × Cursor)
  | [], cursor => .ok (value, cursor)
  | expected :: word, cursor =>
    match cursor.rest with
    | [] => .error (cursor.here .endInValue)
    | c :: rest =>
      if c = expected then readKeyword value word (cursor.behind c rest)
      else .error (cursor.ahead .expectedKeyword)

/-! ## Numbers -/

def significandBound : Nat := Number.twos 64

/-- Digits taken into a significand until one does not fit, with the number left over. -/
def takeWhole (significand : Nat) : List Char → Nat × Nat
  | [] => (significand, 0)
  | d :: rest =>
    let next := 10 * significand + Number.digitValue d
    if next < significandBound then takeWhole next rest else (significand, rest.length + 1)

/-- Fraction digits taken into a significand until one does not fit, with the number taken. -/
def takeFraction (significand taken : Nat) : List Char → Nat × Nat
  | [] => (significand, taken)
  | d :: rest =>
    let next := 10 * significand + Number.digitValue d
    if next < significandBound then takeFraction next (taken + 1) rest else (significand, taken)

def powerOfTen (n : Nat) : Number.Binary64 := Number.Binary64.ofNat (Number.tens n)

/-- Scales by a power of ten; steps of 308 come first when the power is below that. -/
def scaleByTen : Nat → Number.Binary64 → Int → Option Number.Binary64
  | 0, x, _ => some x
  | fuel + 1, x, exponent =>
    if exponent.natAbs ≤ 308 then
      if 0 ≤ exponent then
        let y := x.mul (powerOfTen exponent.natAbs)
        if y.isFinite then some y else none
      else some (x.div (powerOfTen exponent.natAbs))
    else if x.isZero then some x
    else if 0 ≤ exponent then none
    else scaleByTen fuel (x.div (powerOfTen 308)) (exponent + 308)

/-- The binary number for a significand and a power of ten, unless it is too large. -/
def assemble (positive : Bool) (significand : Nat) (exponent : Int) : Option Json :=
  (scaleByTen 4 (Number.Binary64.ofNat significand) exponent).map fun x =>
    .float { x with negative := !positive }

/-- A whole number; one that fits no integer type, and minus zero, become binary numbers. -/
def wholeNumber (positive : Bool) (significand : Nat) : Json :=
  if positive then .int significand
  else if significand = 0 ∨ Number.twos 63 < significand then
    .float { Number.Binary64.ofNat significand with negative := true }
  else .int (-(significand : Int))

/-- The digits of an exponent read up to the first at which 31 bits are exceeded. -/
def exponentDigits (value count : Nat) : List Char → Except Nat Nat
  | [] => .ok value
  | d :: rest =>
    let next := 10 * value + Number.digitValue d
    if next < Number.twos 31 then exponentDigits next (count + 1) rest else .error (count + 1)

/-- Keeps an exponent within 32 bits. -/
def clampExponent (n : Int) : Int :=
  max (-(Number.twos 31 : Int)) (min (Number.twos 31 - 1) n)

def outOfRange (cursor : Cursor) (value : Option Json) : Except ReadError (Json × Cursor) :=
  match value with
  | some json => .ok (json, cursor)
  | none => .error (cursor.here .numberOutOfRange)

def readExponent (positive : Bool) (significand : Nat) (start : Int) (cursor : Cursor) :
    Except ReadError (Json × Cursor) :=
  let (negativeExponent, cursor) := match cursor.rest with
    | '+' :: _ => (false, cursor.step)
    | '-' :: _ => (true, cursor.step)
    | _ => (false, cursor)
  let (ds, behind) := cursor.digits
  match cursor.rest, ds with
  | [], _ => .error (cursor.here .endInValue)
  | _, [] => .error (cursor.ahead .invalidNumber)
  | _, _ =>
    match exponentDigits 0 0 ds with
    | .ok value =>
      let exponent : Int := if negativeExponent then start - value else start + value
      outOfRange behind (assemble positive significand (clampExponent exponent))
    | .error count =>
      if significand ≠ 0 ∧ !negativeExponent then .error (cursor.after count .numberOutOfRange)
      else .ok (.float ⟨!positive, 0⟩, behind)

def readAfterFraction (positive : Bool) (significand : Nat) (exponent : Int) (cursor : Cursor) :
    Except ReadError (Json × Cursor) :=
  match cursor.rest with
  | 'e' :: _ => readExponent positive significand exponent cursor.step
  | 'E' :: _ => readExponent positive significand exponent cursor.step
  | _ => outOfRange cursor (assemble positive significand exponent)

/-- Reads a number behind its minus sign. -/
def readNumber (positive : Bool) (cursor : Cursor) : Except ReadError (Json × Cursor) :=
  let (ds, behind) := cursor.digits
  match ds with
  | [] =>
    if cursor.rest.isEmpty then .error (cursor.here .endInValue)
    else .error (cursor.ahead .invalidNumber)
  | '0' :: _ :: _ => .error (cursor.step.ahead .invalidNumber)
  | _ =>
    let (significand, dropped) := takeWhole 0 ds
    match behind.rest with
    | '.' :: _ =>
      let (fraction, afterFraction) := behind.step.digits
      if fraction.isEmpty then
        .error (behind.step.ahead
          (if behind.step.rest.isEmpty then .endInValue else .invalidNumber))
      else
        let (whole, taken) := takeFraction significand 0 fraction
        readAfterFraction positive whole ((dropped : Int) - taken) afterFraction
    | 'e' :: _ => readExponent positive significand dropped behind.step
    | 'E' :: _ => readExponent positive significand dropped behind.step
    | _ =>
      if dropped = 0 then .ok (wholeNumber positive significand, behind)
      else outOfRange behind (assemble positive significand dropped)

/-! ## Strings -/

/-- The value of four hexadecimal digits. -/
def hexWord? : List Char → Option Nat
  | [a, b, c, d] => do
    let a ← Text.hexValue? a
    let b ← Text.hexValue? b
    let c ← Text.hexValue? c
    let d ← Text.hexValue? d
    return ((a * 16 + b) * 16 + c) * 16 + d
  | _ => none

/-- Reads the four digits of a numbered character. -/
def readHexWord (cursor : Cursor) : Except ReadError (Nat × Cursor) :=
  if cursor.bytesLeft < 4 then .error (cursor.after cursor.bytesLeft .endInString)
  else match hexWord? (cursor.rest.take 4) with
    | some n => .ok (n, ⟨cursor.rest.drop 4, cursor.line, cursor.column + 4⟩)
    | none => .error (cursor.after 4 .invalidEscape)

/-- Demands a character of the second half of a surrogate pair. -/
def expectInPair (expected : Char) (cursor : Cursor) : Except ReadError Cursor :=
  match cursor.rest with
  | [] => .error (cursor.here .endInString)
  | c :: rest =>
    if c = expected then .ok (cursor.behind c rest)
    else .error (cursor.ahead .unfinishedSurrogate)

/-- Reads a numbered character, which may take two words. -/
def readNumbered (cursor : Cursor) : Except ReadError (Char × Cursor) := do
  let (first, cursor) ← readHexWord cursor
  if 0xDC00 ≤ first ∧ first ≤ 0xDFFF then throw (cursor.here .loneSurrogate)
  if first < 0xD800 ∨ 0xDBFF < first then return (Char.ofNat first, cursor)
  let cursor ← expectInPair '\\' cursor
  let cursor ← expectInPair 'u' cursor
  let (second, cursor) ← readHexWord cursor
  if second < 0xDC00 ∨ 0xDFFF < second then throw (cursor.here .loneSurrogate)
  return (Char.ofNat ((first - 0xD800) * 1024 + (second - 0xDC00) + 0x10000), cursor)

/-- Reads an escaped character behind its backslash. -/
def readEscape (cursor : Cursor) : Except ReadError (Char × Cursor) :=
  match cursor.rest with
  | [] => .error (cursor.here .endInString)
  | c :: rest =>
    let next := cursor.behind c rest
    match c with
    | '"' => .ok ('"', next)
    | '\\' => .ok ('\\', next)
    | '/' => .ok ('/', next)
    | 'b' => .ok ('\x08', next)
    | 'f' => .ok ('\x0c', next)
    | 'n' => .ok ('\n', next)
    | 'r' => .ok ('\r', next)
    | 't' => .ok ('\t', next)
    | 'u' => readNumbered next
    | _ => .error (cursor.ahead .invalidEscape)

/-- Reads a string behind its opening quote; `fuel` bounds its characters. -/
def readStringFrom : Nat → List Char → Cursor → Except ReadError (String × Cursor)
  | 0, _, cursor => .error (cursor.here .endInString)
  | fuel + 1, read, cursor =>
    match cursor.rest with
    | [] => .error (cursor.here .endInString)
    | c :: rest =>
      if c = '"' then .ok (String.ofList read.reverse, cursor.behind c rest)
      else if c = '\\' then do
        let (escaped, cursor) ← readEscape (cursor.behind c rest)
        readStringFrom fuel (escaped :: read) cursor
      else if c.toNat < 0x20 then .error (cursor.ahead .controlInString)
      else readStringFrom fuel (c :: read) (cursor.behind c rest)

def readString (cursor : Cursor) : Except ReadError (String × Cursor) :=
  readStringFrom (cursor.rest.length + 1) [] cursor

/-! ## Values -/

mutual

/-- Reads a value; `depth` more levels of nesting are allowed. -/
def readValue : Nat → Nat → Cursor → Except ReadError (Json × Cursor)
  | 0, _, cursor => .error (cursor.here .tooDeep)
  | fuel + 1, depth, cursor =>
    let cursor := cursor.skip
    match cursor.rest with
    | [] => .error (cursor.here .endInValue)
    | c :: rest =>
      let next := cursor.behind c rest
      match c with
      | 'n' => readKeyword .null ['u', 'l', 'l'] next
      | 't' => readKeyword (.bool true) ['r', 'u', 'e'] next
      | 'f' => readKeyword (.bool false) ['a', 'l', 's', 'e'] next
      | '-' => readNumber false next
      | '"' => do
        let (s, cursor) ← readString next
        return (.string s, cursor)
      | '[' =>
        if depth ≤ 1 then .error (cursor.ahead .tooDeep)
        else readItems fuel (depth - 1) [] next
      | '\x7b' =>
        if depth ≤ 1 then .error (cursor.ahead .tooDeep)
        else readMembers fuel (depth - 1) true [] next
      | _ =>
        if c.isDigit then readNumber true cursor
        else .error (cursor.ahead .expectedValue)

/-- Reads the items of an array up to its end; `read` holds those read, the last first. -/
def readItems : Nat → Nat → List Json → Cursor → Except ReadError (Json × Cursor)
  | 0, _, _, cursor => .error (cursor.here .tooDeep)
  | fuel + 1, depth, read, cursor =>
    let cursor := cursor.skip
    match cursor.rest with
    | [] => .error (cursor.here .endInList)
    | ']' :: _ => .ok (.array read.reverse, cursor.step)
    | c :: _ =>
      if read.isEmpty then do
        let (item, cursor) ← readValue fuel depth cursor
        readItems fuel depth [item] cursor
      else if c = ',' then
        let cursor := cursor.step.skip
        match cursor.rest with
        | [] => .error (cursor.here .endInValue)
        | ']' :: _ => .error (cursor.ahead .trailingComma)
        | _ => do
          let (item, cursor) ← readValue fuel depth cursor
          readItems fuel depth (item :: read) cursor
      else .error (cursor.ahead .expectedCommaInList)

/-- Reads the fields of an object up to its end; of two fields of one name the later counts. -/
def readMembers : Nat → Nat → Bool → Fields → Cursor → Except ReadError (Json × Cursor)
  | 0, _, _, _, cursor => .error (cursor.here .tooDeep)
  | fuel + 1, depth, first, read, cursor =>
    let cursor := cursor.skip
    match cursor.rest with
    | [] => .error (cursor.here .endInObject)
    | '\x7d' :: _ => .ok (.object read, cursor.step)
    | '"' :: _ =>
      if first then readMember fuel depth read cursor
      else .error (cursor.ahead .expectedCommaInObject)
    | c :: _ =>
      if first then .error (cursor.ahead .keyNotString)
      else if c = ',' then
        let cursor := cursor.step.skip
        match cursor.rest with
        | [] => .error (cursor.here .endInValue)
        | '"' :: _ => readMember fuel depth read cursor
        | '\x7d' :: _ => .error (cursor.ahead .trailingComma)
        | _ => .error (cursor.ahead .keyNotString)
      else .error (cursor.ahead .expectedCommaInObject)

/-- Reads one field at its opening quote, and the fields after it. -/
def readMember : Nat → Nat → Fields → Cursor → Except ReadError (Json × Cursor)
  | 0, _, _, cursor => .error (cursor.here .tooDeep)
  | fuel + 1, depth, read, cursor => do
    let (name, cursor) ← readString cursor.step
    let cursor := cursor.skip
    match cursor.rest with
    | [] => throw (cursor.here .endInObject)
    | ':' :: _ =>
      let (value, cursor) ← readValue fuel depth cursor.step
      readMembers fuel depth false (Fields.insert name value read) cursor
    | _ => throw (cursor.ahead .expectedColon)

end

/-- How deep arrays and objects may nest, plus one. -/
def depthLimit : Nat := 128

def parse (s : String) : Except ReadError Json := do
  let start := Cursor.ofText s
  let (value, cursor) ← readValue (2 * start.rest.length + 2) depthLimit start
  let cursor := cursor.skip
  match cursor.rest with
  | [] => return value
  | _ => throw (cursor.ahead .trailingCharacters)

end Json
end RecordRules
