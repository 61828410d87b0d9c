import RecordRules.Web.HostAddress

/-!
# Web addresses

An absolute address is taken apart into scheme, user, host, port, path, query and fragment, and
brought into its normal form: dots in the path are resolved and unsafe characters are written with
percent signs.
-/

namespace RecordRules.Web

/-- Why a text is no address. -/
inductive UrlError where
  | relative
  | badPort
  | badHost (error : HostError)
  deriving DecidableEq, Repr

def UrlError.message : UrlError → String
  | .relative => "relative URL without a base"
  | .badPort => "invalid port number"
  | .badHost error => error.message

/-- An address in its normal form.  Behind the slashes for a host there may be none, which is an
empty name. -/
structure Url where
  scheme : String
  username : String
  password : Option String
  host : Option HostAddress
  port : Option Nat
  path : String
  query : Option String
  fragment : Option String
  deriving DecidableEq, Repr, Inhabited

namespace Url

/-- The schemes of the web, with their usual ports. -/
def specialSchemes : List (String × Nat) :=
  [("http", 80), ("https", 443), ("ws", 80), ("wss", 443), ("ftp", 21)]

/-- Is it a scheme of the web, or that of files? -/
def isSpecial (scheme : String) : Bool :=
  (specialSchemes.lookup scheme).isSome || scheme == "file"

def unsafeInFragment (c : Char) : Bool :=
  HostAddress.isControl c || [' ', '"', '<', '>', '\x60'].contains c

def unsafeInPath (c : Char) : Bool :=
  unsafeInFragment c || ['#', '?', '\x7b', '\x7d'].contains c

/-- The characters that are unsafe in the name of a user. -/
def unsafeInUser (c : Char) : Bool :=
  unsafeInPath c || ['/', ':', ';', '=', '@', '[', '\\', ']', '^', '|'].contains c

def unsafeInQuery (special : Bool) (c : Char) : Bool :=
  HostAddress.isControl c || [' ', '"', '#', '<', '>'].contains c || (special && c == '\'')

def encode (unsafeChar : Char → Bool) (cs : List Char) : String :=
  String.ofList (Text.percentEncode unsafeChar cs)

def scheme? (cs : List Char) : Option (String × List Char) :=
  match Text.cutChars ':' cs with
  | some (c :: scheme, rest) =>
    if Text.isAsciiLetter c
        && scheme.all fun c => Text.isAsciiAlphanumeric c || ['+', '-', '.'].contains c then
      some (Text.asciiLower (String.ofList (c :: scheme)), rest)
    else none
  | _ => none

def endsAuthority (special : Bool) (c : Char) : Bool :=
  ['/', '?', '#'].contains c || (special && c == '\\')

/-- The user part before the last at sign, and the rest. -/
def splitUser (authority : List Char) : Option (List Char) × List Char :=
  match Text.cutChars '@' authority.reverse with
  | some (host, user) => (some user.reverse, host.reverse)
  | none => (none, authority)

/-- The part of a text before the colon of a port; colons in brackets do not count. -/
def hostEnd (inBrackets : Bool) : List Char → List Char × List Char
  | [] => ([], [])
  | c :: rest =>
    if c = ':' ∧ !inBrackets then ([], c :: rest)
    else
      let (host, port) := hostEnd (c = '[' || (inBrackets && c ≠ ']')) rest
      (c :: host, port)

/-- The port after a colon; the usual one of the scheme is left out. -/
def port? (scheme : String) (cs : List Char) : Except UrlError (Option Nat) :=
  if cs.isEmpty then .ok none
  else if cs.all Char.isDigit && decide (Number.readDigits 0 cs < 65536) then
    let n := Number.readDigits 0 cs
    .ok (if specialSchemes.lookup scheme = some n then none else some n)
  else .error .badPort

/-- Does the segment mean the place itself? -/
def isDot (segment : List Char) : Bool :=
  [".", "%2e"].contains (Text.asciiLower (String.ofList segment))

/-- Does the segment mean the place above? -/
def isDoubleDot (segment : List Char) : Bool :=
  ["..", ".%2e", "%2e.", "%2e%2e"].contains (Text.asciiLower (String.ofList segment))

/-- The segments with dots resolved; those found before come in reverse. -/
def resolveDots (found : List (List Char)) : List (List Char) → List (List Char)
  | [] => found.reverse
  | [last] =>
    if isDoubleDot last then ([] :: found.tail).reverse
    else if isDot last then ([] :: found).reverse
    else (last :: found).reverse
  | segment :: rest =>
    if isDoubleDot segment then resolveDots found.tail rest
    else if isDot segment then resolveDots found rest
    else resolveDots (segment :: found) rest

def hostPath (special : Bool) (cs : List Char) : String :=
  let cs := cs.map fun c => if special && c == '\\' then '/' else c
  match cs with
  | [] => if special then "/" else ""
  | _ :: rest =>
    let (head, tail) := Text.pieces '/' rest
    encode unsafeInPath ((resolveDots [] (head :: tail)).flatMap fun segment => '/' :: segment)

/-- The text before a mark, and the text after it if there is one. -/
def cutOff (mark : Char) (cs : List Char) : List Char × Option (List Char) :=
  match Text.cutChars mark cs with
  | some (before, after) => (before, some after)
  | none => (cs, none)

def user (part : Option (List Char)) : String × Option String :=
  match part with
  | none => ("", none)
  | some part =>
    let (name, password) := cutOff ':' part
    (encode unsafeInUser name, password.map (encode unsafeInUser))

/-- The characters up to the end of the authority, and the rest. -/
def splitAuthority (special : Bool) (cs : List Char) : List Char × List Char :=
  (cs.takeWhile fun c => !endsAuthority special c, cs.dropWhile fun c => !endsAuthority special c)

def readHost (scheme : String) (cs : List Char) : Except UrlError HostAddress :=
  (if isSpecial scheme then HostAddress.ofWeb cs else HostAddress.ofOther cs).mapError .badHost

/-- Takes apart what follows the slashes before a host. -/
def withHost (scheme : String) (cs : List Char) (query fragment : Option String) :
    Except UrlError Url := do
  let special := isSpecial scheme
  let (authority, path) := splitAuthority special cs
  let (userPart, hostPart) := splitUser authority
  let (hostText, portText) := hostEnd false hostPart
  if hostText.isEmpty && (special || !portText.isEmpty || userPart.isSome) then
    throw (.badHost .empty)
  let host ← readHost scheme hostText
  let port ← port? scheme portText.tail
  let (username, password) := user userPart
  return {
    scheme, username, password
    host := some host
    port
    path := hostPath special path
    query, fragment }

def ofPath (scheme : String) (host : Option HostAddress) (path : String)
    (query fragment : Option String) : Url where
  scheme := scheme
  username := ""
  password := none
  host := host
  port := none
  path := path
  query := query
  fragment := fragment

/-- Takes apart what follows the scheme of a file.  The host may be left out, also by name. -/
def ofFile (scheme : String) (cs : List Char) (query fragment : Option String) :
    Except UrlError Url :=
  let isSlash (c : Char) : Bool := c == '/' || c == '\\'
  let nowhere (cs : List Char) : Url :=
    ofPath scheme (some (.domain "")) (hostPath true cs) query fragment
  match cs with
  | a :: b :: rest =>
    if isSlash a && isSlash b then
      let (hostText, path) := splitAuthority true rest
      if hostText.isEmpty then .ok (nowhere path)
      else
        (readHost scheme hostText).map fun host =>
          if host = .domain "localhost" then nowhere path
          else ofPath scheme (some host) (hostPath true path) query fragment
    else .ok (nowhere (if isSlash a then cs else '/' :: cs))
  | [c] => .ok (nowhere (if isSlash c then cs else ['/', c]))
  | [] => .ok (nowhere [])

/-- Takes apart an address without a host.  A path that begins with a slash is resolved, and kept
from being taken for a host; any other one stays as it is. -/
def withoutHost (scheme : String) (cs : List Char) (query fragment : Option String) : Url :=
  match cs with
  | '/' :: _ =>
    let path := hostPath false cs
    let path := if Text.startsWith path.toList ['/', '/'] then "/." ++ path else path
    ofPath scheme none path query fragment
  | _ => ofPath scheme none (encode HostAddress.isControl cs) query fragment

/-- The characters of an address: without controls and spaces at its ends, and without tabs and
line ends. -/
def clean (s : String) : List Char :=
  let isOuter (c : Char) : Bool := decide (c.toNat ≤ 32)
  let cs := ((s.toList.dropWhile isOuter).reverse.dropWhile isOuter).reverse
  cs.filter fun c => c != '\t' && c != '\n' && c != '\r'

def parse (s : String) : Except UrlError Url :=
  match scheme? (clean s) with
  | none => .error .relative
  | some (scheme, rest) =>
    let (rest, fragment) := cutOff '#' rest
    let (rest, query) := cutOff '?' rest
    let query := query.map (encode (unsafeInQuery (isSpecial scheme)))
    let fragment := fragment.map (encode unsafeInFragment)
    if scheme = "file" then ofFile scheme rest query fragment
    else if isSpecial scheme then
      withHost scheme (rest.dropWhile fun c => c == '/' || c == '\\') query fragment
    else
      match rest with
      | '/' :: '/' :: rest => withHost scheme rest query fragment
      | _ => .ok (withoutHost scheme rest query fragment)

def hasHost (url : Url) : Bool := url.host.any fun host => host != .domain ""

/-- A part with a mark before it, if there is one. -/
def marked (mark : String) : Option String → String
  | some s => mark ++ s
  | none => ""

/-- Path and query, as a request names them. -/
def target (url : Url) : String := url.path ++ marked "?" url.query

/-- The address as text, without its user. -/
def text (url : Url) : String :=
  let authority := match url.host with
    | some host => "//" ++ host.text ++ marked ":" (url.port.map Number.natText)
    | none => ""
  url.scheme ++ ":" ++ authority ++ url.target ++ marked "#" url.fragment

/-- Can a request be sent to the address?  That takes a host without certain signs, and no more than
65534 bytes in all. -/
def isCallable (url : Url) : Bool :=
  let isSign (c : Char) : Bool := ['"', '\x60', '\x7b', '\x7d'].contains c
  !url.host.any (fun host => host.text.toList.any isSign) && decide (url.text.utf8ByteSize < 65535)

end Url

end RecordRules.Web
