import RecordRules.Json.Basic
import RecordRules.Text.Ascii

/-!
# JSON text

The compact text of a value: no blanks, fields in their order, and in strings only the quote, the
backslash and controls escaped.
-/

namespace RecordRules
namespace Json

def controlEscape (c : Char) : List Char :=
  ['\\', 'u', '0', '0', Text.hexDigit (c.toNat / 16), Text.hexDigit (c.toNat % 16)]

def escapeChar (c : Char) : List Char :=
  if c = '"' then ['\\', '"']
  else if c = '\\' then ['\\', '\\']
  else if c = '\n' then ['\\', 'n']
  else if c = '\r' then ['\\', 'r']
  else if c = '\t' then ['\\', 't']
  else if c = '\x08' then ['\\', 'b']
  else if c = '\x0c' then ['\\', 'f']
  else if c.toNat < 0x20 then controlEscape c
  else [c]

def quote (s : String) : String :=
  String.ofList ('"' :: (s.toList.flatMap escapeChar ++ ['"']))

mutual

def print : Json → String
  | .null => "null"
  | .bool b => if b then "true" else "false"
  | .int n => Number.intText n
  | .float x => Number.floatText x
  | .string s => quote s
  | .array items => "[" ++ printItems items ++ "]"
  | .object fields => "\x7b" ++ printFields fields ++ "\x7d"

def printItems : List Json → String
  | [] => ""
  | [item] => print item
  | item :: next :: rest => print item ++ "," ++ printItems (next :: rest)

def printFields : List (String × Json) → String
  | [] => ""
  | [(name, value)] => quote name ++ ":" ++ print value
  | (name, value) :: next :: rest =>
    quote name ++ ":" ++ print value ++ "," ++ printFields (next :: rest)

end

/-- The natural text of a value, as comparisons and placeholders see it; null has none. -/
def text? : Json → Option String
  | .null => none
  | .string s => some s
  | value => some (print value)

end Json
end RecordRules
