import RecordRules.Text.Ascii

/-!
# Percent signs

Characters that are unsafe in an address are written as a percent sign and two hexadecimal digits
for each of their bytes.
-/

namespace RecordRules.Text

/-- A byte as a percent sign and two hexadecimal digits. -/
def percentByte (b : UInt8) : List Char :=
  ['%', hexDigitUpper (b.toNat / 16), hexDigitUpper (b.toNat % 16)]

/-- The characters with those of a set, and all that are not ASCII, as percent signs and digits. -/
def percentEncode (unsafeChar : Char → Bool) (cs : List Char) : List Char :=
  cs.flatMap fun c =>
    if unsafeChar c || decide (128 ≤ c.toNat) then (String.utf8EncodeChar c).flatMap percentByte
    else [c]

/-- The bytes of characters with percent signs resolved. -/
def percentDecode : List Char → List UInt8
  | '%' :: a :: b :: rest =>
    match hexValue? a, hexValue? b with
    | some x, some y => UInt8.ofNat (16 * x + y) :: percentDecode rest
    | _, _ => '%'.toUInt8 :: percentDecode (a :: b :: rest)
  | c :: rest => String.utf8EncodeChar c ++ percentDecode rest
  | [] => []

end RecordRules.Text
