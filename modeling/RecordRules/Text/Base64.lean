import RecordRules.Number.Digits

/-!
# Base 64

Three bytes are written as four characters of six bits each, and what is left at the end is filled
up with equality signs.  Reading is strict: the filling must be there, and bits that stand for no
byte must be zero.
-/

namespace RecordRules.Text

def sixBitChar (n : Nat) : Char :=
  if n < 26 then Char.ofNat (65 + n)
  else if n < 52 then Char.ofNat (71 + n)
  else if n < 62 then Char.ofNat (n - 4)
  else if n = 62 then '+'
  else '/'

/-- The six bits of a character, given by its byte. -/
def sixBits? (b : UInt8) : Option Nat :=
  let n := b.toNat
  if 65 ≤ n ∧ n ≤ 90 then some (n - 65)
  else if 97 ≤ n ∧ n ≤ 122 then some (n - 71)
  else if 48 ≤ n ∧ n ≤ 57 then some (n + 4)
  else if n = 43 then some 62
  else if n = 47 then some 63
  else none

/-- The bytes in base 64, three bytes as four characters, filled up with equality signs. -/
def base64Chars : List UInt8 → List Char
  | a :: b :: c :: rest =>
    let n := a.toNat * 65536 + b.toNat * 256 + c.toNat
    [sixBitChar (n / 262144), sixBitChar (n / 4096 % 64), sixBitChar (n / 64 % 64),
      sixBitChar (n % 64)] ++ base64Chars rest
  | [a, b] =>
    let n := a.toNat * 65536 + b.toNat * 256
    [sixBitChar (n / 262144), sixBitChar (n / 4096 % 64), sixBitChar (n / 64 % 64), '=']
  | [a] =>
    let n := a.toNat * 65536
    [sixBitChar (n / 262144), sixBitChar (n / 4096 % 64), '=', '=']
  | [] => []

/-- The bytes in base 64. -/
def base64 (bytes : List UInt8) : String := String.ofList (base64Chars bytes)

/-- Why bytes are not base 64. -/
inductive Base64Error where
  | badSymbol (symbol : UInt8) (place : Nat)
  | badLength (length : Nat)
  /-- The last character has bits that stand for no byte. -/
  | badLastSymbol (symbol : UInt8) (place : Nat)
  | badFilling
  deriving DecidableEq, Repr

def Base64Error.message : Base64Error → String
  | .badSymbol symbol place =>
    "Invalid symbol " ++ Number.natText symbol.toNat ++ ", offset " ++ Number.natText place ++ "."
  | .badLength length => "Invalid input length: " ++ Number.natText length
  | .badLastSymbol symbol place =>
    "Invalid last symbol " ++ Number.natText symbol.toNat ++ ", offset "
      ++ Number.natText place ++ "."
  | .badFilling => "Invalid padding"

/-- The equality sign, as a byte. -/
def filling : UInt8 := 61

/-- The bits of characters; the first one that has none is at fault. -/
def sixBitsFrom (place : Nat) : List UInt8 → Except Base64Error (List Nat)
  | [] => .ok []
  | b :: rest =>
    match sixBits? b with
    | some bits => (sixBitsFrom (place + 1) rest).map (bits :: ·)
    | none => .error (.badSymbol b place)

/-- The bits of the last characters and their number of equality signs.  The signs must follow at
least two characters, and no other may follow them. -/
def lastBits (start : Nat) (bytes : List UInt8) : Except Base64Error (List Nat × Nat) :=
  let symbols := bytes.takeWhile (· != filling)
  let signs := bytes.dropWhile (· != filling)
  match sixBitsFrom start symbols with
  | .error error => .error error
  | .ok bits =>
    if !signs.isEmpty && (symbols.length < 2 || signs.any (· != filling)) then
      .error (.badSymbol filling (start + symbols.length))
    else .ok (bits, signs.length)

/-- The bytes of the last characters, of which there are no more than four. -/
def decodeLast (start : Nat) (bytes : List UInt8) : Except Base64Error (List UInt8) :=
  match lastBits start bytes with
  | .error error => .error error
  | .ok (bits, signs) =>
    let bad := (bytes[bits.length - 1]?).getD 0
    let place := start + bits.length - 1
    if (bits.length + signs) % 4 ≠ 0 ∧ 2 ≤ bits.length then .error .badFilling
    else
      match bits with
      | [a, b, c, d] =>
        let n := a * 262144 + b * 4096 + c * 64 + d
        .ok [UInt8.ofNat (n / 65536), UInt8.ofNat (n / 256 % 256), UInt8.ofNat (n % 256)]
      | [a, b, c] =>
        let n := a * 4096 + b * 64 + c
        if n % 4 = 0 then .ok [UInt8.ofNat (n / 1024), UInt8.ofNat (n / 4 % 256)]
        else .error (.badLastSymbol bad place)
      | [a, b] =>
        let n := a * 64 + b
        if n % 16 = 0 then .ok [UInt8.ofNat (n / 16)] else .error (.badLastSymbol bad place)
      | _ => if bytes.isEmpty then .ok [] else .error (.badLength (start + bits.length))

def decodeFrom (place : Nat) : List UInt8 → Except Base64Error (List UInt8)
  | a :: b :: c :: d :: e :: rest =>
    match sixBitsFrom place [a, b, c, d] with
    | .error error => .error error
    | .ok _ =>
      match decodeLast place [a, b, c, d], decodeFrom (place + 4) (e :: rest) with
      | .ok first, .ok more => .ok (first ++ more)
      | .error error, _ => .error error
      | _, .error error => .error error
  | bytes => decodeLast place bytes

/-- The bytes that characters in base 64 stand for.  A single character left over that is none of
base 64 is named before all others. -/
def ofBase64 (bytes : List UInt8) : Except Base64Error (List UInt8) :=
  match bytes.getLast? with
  | some last =>
    if bytes.length % 4 = 1 ∧ last ≠ filling ∧ (sixBits? last).isNone then
      .error (.badSymbol last (bytes.length - 1))
    else decodeFrom 0 bytes
  | none => .ok []

end RecordRules.Text
