import RecordRules.Domain.Name
import RecordRules.Number.Digits
import RecordRules.Text.Percent
import RecordRules.Text.Utf8

/-!
# Hosts

The host of an address is a name, a number of 32 bits or a number of 128 bits.  A name whose last
label is a number is meant as a number of 32 bits, which may be written in up to four parts and in
the bases ten, eight and sixteen.
-/

namespace RecordRules.Web

/-- Why a text is no host. -/
inductive HostError where
  | empty
  | badIpv4
  | badIpv6
  | badDomain
  /-- A host of an address that is not one of the web holds a forbidden character. -/
  | badName
  deriving DecidableEq, Repr

def HostError.message : HostError → String
  | .empty => "empty host"
  | .badIpv4 => "invalid IPv4 address"
  | .badIpv6 => "invalid IPv6 address"
  | .badDomain => "invalid international domain name"
  | .badName => "invalid domain character"

/-- A host. -/
inductive HostAddress where
  | domain (name : String)
  | ipv4 (number : Nat)
  /-- Eight groups of 16 bits. -/
  | ipv6 (groups : List Nat)
  deriving DecidableEq, Repr, Inhabited

namespace HostAddress

def areDigits (base : Nat) (cs : List Char) : Bool :=
  cs.all fun c => (Text.hexValue? c).any (· < base)

def readNumber (base : Nat) (cs : List Char) : Nat :=
  cs.foldl (fun n c => base * n + (Text.hexValue? c).getD 0) 0

/-- The number that a part of an address denotes: in base sixteen behind 0x, in base eight behind
another zero.  Zero has no need of digits behind these. -/
def partNumber? (part : List Char) : Option Nat :=
  let (base, digits) := match part with
    | '0' :: 'x' :: rest => (16, rest)
    | '0' :: 'X' :: rest => (16, rest)
    | '0' :: c :: rest => (8, c :: rest)
    | _ => (10, part)
  if part.isEmpty || !areDigits base digits then none else some (readNumber base digits)

/-- The parts of a name, without an empty last one. -/
def partsOf (name : List Char) : List (List Char) :=
  let (head, tail) := Text.pieces '.' name
  let parts := head :: tail
  if parts.getLast? = some [] then parts.dropLast else parts

def endsInNumber (name : List Char) : Bool :=
  match (partsOf name).getLast? with
  | some last => (!last.isEmpty && last.all Char.isDigit) || (partNumber? last).isSome
  | none => false

/-- The number of parts that stand for eight bits each, but for the last one, which stands for all
that are left. -/
def joinParts (bits : Nat) : List Nat → Option Nat
  | [] => none
  | [last] => if last < Number.twos bits then some last else none
  | part :: rest =>
    if part < 256 then
      (joinParts (bits - 8) rest).map fun number => part * Number.twos (bits - 8) + number
    else none

/-- Reads a number of 32 bits. -/
def readIpv4 (name : List Char) : Except HostError Nat :=
  let parts := partsOf name
  match parts.mapM partNumber? with
  | some numbers =>
    if numbers.length ≤ 4 then
      match joinParts 32 numbers with
      | some number => .ok number
      | none => .error .badIpv4
    else .error .badIpv4
  | none => .error .badIpv4

/-- A number from 0 to 255 without needless zeros. -/
def octet? (part : List Char) : Option Nat :=
  match Number.readBelow? 256 (String.ofList part) with
  | some n => if Number.digits n = part then some n else none
  | none => none

/-- The two groups that four numbers with dots make. -/
def octetGroups? (cs : List Char) : Option (List Nat) :=
  let (head, tail) := Text.pieces '.' cs
  match (head :: tail).mapM octet? with
  | some [a, b, c, d] => some [256 * a + b, 256 * c + d]
  | _ => none

/-- A group of one to four digits. -/
def group? (part : List Char) : Option Nat :=
  if 1 ≤ part.length ∧ part.length ≤ 4 ∧ areDigits 16 part then some (readNumber 16 part)
  else none

/-- The groups of parts; the last one may be four numbers with dots. -/
def groupsOf? (allowOctets : Bool) : List (List Char) → Option (List Nat)
  | [] => some []
  | [last] =>
    match group? last with
    | some group => some [group]
    | none => if allowOctets then octetGroups? last else none
  | part :: rest =>
    match group? part, groupsOf? allowOctets rest with
    | some group, some groups => some (group :: groups)
    | _, _ => none

def groups? (allowOctets : Bool) (cs : List Char) : Option (List Nat) :=
  if cs.isEmpty then some []
  else
    let (head, tail) := Text.pieces ':' cs
    groupsOf? allowOctets (head :: tail)

/-- The text around the first double colon. -/
def cutDouble : List Char → Option (List Char × List Char)
  | ':' :: ':' :: rest => some ([], rest)
  | c :: rest => (cutDouble rest).map fun (before, after) => (c :: before, after)
  | [] => none

/-- Reads eight groups, where a double colon stands for groups of zero. -/
def readIpv6 (cs : List Char) : Except HostError (List Nat) :=
  match cutDouble cs with
  | none =>
    match groups? true cs with
    | some groups => if groups.length = 8 then .ok groups else .error .badIpv6
    | none => .error .badIpv6
  | some (before, after) =>
    match groups? false before, groups? true after with
    | some before, some after =>
      let count := before.length + after.length
      if count ≤ 7 then .ok (before ++ List.replicate (8 - count) 0 ++ after)
      else .error .badIpv6
    | _, _ => .error .badIpv6

def isForbidden (c : Char) : Bool :=
  ['\x00', '\t', '\n', '\r', ' ', '#', '/', ':', '<', '>', '?', '@', '[', '\\', ']', '^',
    '|'].contains c

def isForbiddenInDomain (c : Char) : Bool :=
  isForbidden c || decide (c.toNat < 32 ∨ c.toNat = 127) || c == '%'

/-- Reads a host in brackets; the opening one has been read. -/
def readBracketed (cs : List Char) : Except HostError HostAddress :=
  if cs.getLast? = some ']' then (readIpv6 cs.dropLast).map .ipv6 else .error .badIpv6

def ofWeb : List Char → Except HostError HostAddress
  | '[' :: inner => readBracketed inner
  | cs =>
    match Text.ofUtf8 (Text.percentDecode cs) with
    | .error _ => .error .badDomain
    | .ok decoded =>
      match Domain.toAscii? isForbiddenInDomain decoded with
      | none => .error .badDomain
      | some [] => .error .empty
      | some name =>
        if endsInNumber name then (readIpv4 name).map .ipv4
        else .ok (.domain (String.ofList name))

def isControl (c : Char) : Bool := decide (c.toNat < 32 ∨ c.toNat = 127)

def ofOther : List Char → Except HostError HostAddress
  | '[' :: inner => readBracketed inner
  | cs =>
    if cs.any isForbidden then .error .badName
    else .ok (.domain (String.ofList (Text.percentEncode isControl cs)))

/-- A number of 32 bits as four numbers. -/
def ipv4Text (number : Nat) : String :=
  let octet (bits : Nat) : String := Number.natText (number / Number.twos bits % 256)
  Text.join "." [octet 24, octet 16, octet 8, octet 0]

/-- The lower-case hexadecimal digits of a group. -/
def groupText (group : Nat) : List Char :=
  let digits := [group / 4096, group / 256 % 16, group / 16 % 16].dropWhile (· == 0)
  (digits ++ [group % 16]).map Text.hexDigit

/-- How many zeros come first. -/
def zeros (groups : List Nat) : Nat := (groups.takeWhile (· == 0)).length

/-- The longest run of zeros, of which the first counts: its place and its length.  The place of the
groups among all is given. -/
def longestZeros (place : Nat) : List Nat → Nat × Nat
  | [] => (place, 0)
  | group :: rest =>
    let here := zeros (group :: rest)
    let later := longestZeros (place + 1) rest
    if later.2 ≤ here then (place, here) else later

def colonText (groups : List Nat) : List Char := [':'].intercalate (groups.map groupText)

/-- Eight groups, of which the longest run of two or more zeros is a double colon. -/
def ipv6Text (groups : List Nat) : String :=
  let (place, length) := longestZeros 0 groups
  let text :=
    if length < 2 then colonText groups
    else colonText (groups.take place) ++ [':', ':'] ++ colonText (groups.drop (place + length))
  String.ofList ('[' :: text ++ [']'])

def text : HostAddress → String
  | .domain name => name
  | .ipv4 number => ipv4Text number
  | .ipv6 groups => ipv6Text groups

end HostAddress

end RecordRules.Web
