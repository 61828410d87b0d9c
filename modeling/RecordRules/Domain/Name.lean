import RecordRules.Domain.Direction
import RecordRules.Domain.Punycode

/-!
# Names of domains

A name is labels with dots between them.  It is brought into one form and written in ASCII: a label
with other characters is encoded behind a start that marks it.  A label that comes encoded must
stand for one that is in its form already.
-/

namespace RecordRules.Domain

def encodedStart : List Char := "xn--".toList

/-- What a label stands for.  Only a label with characters beyond ASCII may be encoded. -/
def decodeLabel (label : List Char) : Option (List Char) :=
  match Text.afterStart? label encodedStart with
  | none => some label
  | some code =>
    match Punycode.decode code with
    | none => none
    | some decoded =>
      if !decoded.all Punycode.isAscii && decoded.all isValidChar && compose decoded == decoded then
        some decoded
      else none

/-- Can a label begin and be joined as it is?  The empty label can. -/
def isWellFormed (label : List Char) : Bool :=
  !label.head?.any isMark && areJoinersPlaced [] label

def encodeLabel (label : List Char) : List Char :=
  if label.all Punycode.isAscii then label else encodedStart ++ Punycode.encode label

/-- The name in ASCII, if it is well formed and holds no forbidden character. -/
def toAscii? (forbidden : Char → Bool) (name : List Char) : Option (List Char) :=
  match mapChars name with
  | none => none
  | some mapped =>
    let (head, tail) := Text.pieces '.' (compose mapped)
    match (head :: tail).mapM decodeLabel with
    | none => none
    | some decoded =>
      if decoded.all (fun label => isWellFormed label && !label.any forbidden)
          && areDisplayable decoded then
        some (['.'].intercalate ((head :: tail).map encodeLabel))
      else none

end RecordRules.Domain
