import RecordRules.Text.Ascii
import RecordRules.Text.Base64
import RecordRules.Text.Utf8

/-!
# Bodies of mails

A body goes out as it is when it is ASCII in short lines.  Otherwise it is written with quoted bytes
when most of it is plain, and in base 64 when it is not.  Line ends are a carriage return and a
line feed.
-/

namespace RecordRules.Mail

/-- How a body is written. -/
inductive BodyStyle where
  | plain
  | quotedBytes
  | base64
  deriving DecidableEq, Repr

/-- The characters with every line end as a carriage return and a line feed; the argument tells
that a carriage return came just before. -/
def lineEnds (afterReturn : Bool) : List Char → List Char
  | [] => []
  | '\n' :: rest =>
    if afterReturn then '\n' :: lineEnds false rest else '\r' :: '\n' :: lineEnds false rest
  | c :: rest => c :: lineEnds (c = '\r') rest

/-- Is there a line that is too long to be sent as it is?  A line end counts for the line that
follows it. -/
def hasLongLine (count : Nat) : List UInt8 → Bool
  | [] => decide (76 ≤ count)
  | b :: rest =>
    if b = 10 then decide (76 ≤ count) || hasLongLine 1 rest else hasLongLine (count + 1) rest

/-- Must the byte be quoted, were the text sent with quoted bytes? -/
def isOdd (b : UInt8) : Bool := !(b == 9 || decide (32 ≤ b.toNat ∧ b.toNat ≤ 126))

/-- How bytes are written: by the length of their lines and the share of those that are odd. -/
def BodyStyle.ofBytes (bytes : List UInt8) : BodyStyle :=
  if bytes.all (fun b => decide (b.toNat < 128)) && !hasLongLine 0 bytes then .plain
  else if bytes.countP isOdd ≤ bytes.length / 3 then .quotedBytes
  else .base64

def foldLines (length : Nat) (column : Nat) : List Char → List Char
  | [] => []
  | c :: rest =>
    if column = length then '\r' :: '\n' :: c :: foldLines length 1 rest
    else c :: foldLines length (column + 1) rest

/-- A byte as an equality sign and two hexadecimal digits. -/
def quotedByte (b : UInt8) : List Char :=
  ['=', Text.hexDigitUpper (b.toNat / 16), Text.hexDigitUpper (b.toNat % 16)]

def quotedForm (b : UInt8) : List Char :=
  let n := b.toNat
  if (32 ≤ n ∧ n ≤ 126 ∧ n ≠ 61) ∨ n = 9 then [Char.ofNat n] else quotedByte b

/-- The forms of the bytes of a line.  A space or a tab at its end is quoted, since it would be lost
on the way. -/
def quotedForms : List UInt8 → List (List Char)
  | [] => []
  | [b] => [if b = 32 ∨ b = 9 then quotedByte b else quotedForm b]
  | b :: rest => quotedForm b :: quotedForms rest

/-- What a line ends with that goes on in the next one. -/
def softBreak : List Char := ['=', '\r', '\n']

/-- Forms in lines of no more than 76 characters; the column is given.  A line of just 76 that goes
on makes room for the mark by passing its last form on. -/
def softLines (column : Nat) : List (List Char) → List Char
  | [] => []
  | [form] => if 76 < column + form.length then softBreak ++ form else form
  | form :: rest =>
    if 75 < column + form.length then softBreak ++ form ++ softLines form.length rest
    else form ++ softLines (column + form.length) rest

/-- Lines of quoted bytes; a line end stays one, and the line begun before comes in reverse. -/
def quotedLines (line : List UInt8) : List UInt8 → List Char
  | [] => softLines 0 (quotedForms line.reverse)
  | 13 :: 10 :: rest =>
    softLines 0 (quotedForms line.reverse) ++ ['\r', '\n'] ++ quotedLines [] rest
  | b :: rest => quotedLines (b :: line) rest

/-- The characters without the line ends behind them, which come first here. -/
def dropLineEnds : List Char → List Char
  | '\n' :: '\r' :: rest => dropLineEnds rest
  | cs => cs

def writeBody (s : String) : List Char :=
  let sent := lineEnds false s.toList
  match BodyStyle.ofBytes (Text.utf8 s.toList) with
  | .plain => sent
  | .quotedBytes => quotedLines [] (Text.utf8 sent)
  | .base64 => foldLines 76 0 (Text.base64Chars (Text.utf8 sent))

/-- A body as it arrives: the line ends behind it belong to the dialogue, not to the body. -/
def encodeBody (s : String) : String :=
  String.ofList (dropLineEnds (writeBody s).reverse).reverse

end RecordRules.Mail
