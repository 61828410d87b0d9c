import RecordRules.Error
import RecordRules.Host.Run
import RecordRules.Json.Printer
import RecordRules.Json.Reader
import RecordRules.Message.WebhookRequest
import RecordRules.Number.Power
import RecordRules.Settings
import RecordRules.Text.Base64
import RecordRules.Text.Blank
import RecordRules.Web.StatusCode
import RecordRules.Web.Url

/-!
# Delivery of webhooks

A webhook is sent until it is answered with a status that is not worth another attempt, or until
the attempts are used up.  The wait between attempts doubles.
-/

namespace RecordRules.Web

/-- A request as it goes to the server. -/
structure WireRequest where
  method : String
  target : String
  headers : List (String × String)
  body : Option Json
  deriving Repr, Inhabited

/-- What an attempt came to. -/
inductive AttemptResult where
  | status (code : Nat)
  /-- The request went out and no answer came. -/
  | transport (message : String)
  /-- The request could not be built. -/
  | building (message : String)
  deriving DecidableEq, Repr

def methods : List String := ["GET", "POST", "PUT", "PATCH", "DELETE"]

def readMethod (raw : String) : Except WorkflowError String :=
  let method := Text.asciiUpper (Text.trim raw)
  if methods.contains method then .ok method
  else .error (.configuration ("unsupported webhook method: " ++ method))

/-- May the character stand in the name of a header? -/
def isHeaderNameChar (c : Char) : Bool :=
  Text.isAsciiAlphanumeric c
    || ['!', '#', '$', '%', '&', '\'', '*', '+', '-', '.', '^', '_', '\x60', '|', '~'].contains c

/-- May the character stand in the value of a header? -/
def isHeaderValueChar (c : Char) : Bool :=
  c == '\t' || decide (32 ≤ c.toNat ∧ c.toNat ≠ 127)

/-- What is wrong with the value of a header, if anything. -/
def valueFault (value : String) : Option String :=
  if value.toList.all isHeaderValueChar then none
  else some "builder error: failed to parse header value"

/-- What is wrong with the first bad header, if any. -/
def headerFault : List (String × String) → Option String
  | [] => none
  | (name, value) :: rest =>
    if name.isEmpty || !name.toList.all isHeaderNameChar then
      some "builder error: invalid HTTP header name"
    else (valueFault value).or (headerFault rest)

/-- Stores a header under its name in lower case. -/
def setHeader (name value : String) (headers : List (String × String)) : List (String × String) :=
  match headers with
  | [] => [(name, value)]
  | (other, old) :: rest =>
    if name = other then (name, value) :: rest
    else if name < other then (name, value) :: (other, old) :: rest
    else (other, old) :: setHeader name value rest

/-- Stores a header unless there is one of its name. -/
def setDefault (name value : String) (headers : List (String × String)) :
    List (String × String) :=
  if headers.any fun header => header.1 == name then headers else setHeader name value headers

def userHeader (url : Url) : List (String × String) :=
  if url.username.isEmpty && url.password.isNone then []
  else
    let bytes := Text.percentDecode url.username.toList ++ [58]
      ++ Text.percentDecode (url.password.getD "").toList
    [("authorization", "Basic " ++ Text.base64 bytes)]

/-- The headers of a request: those given, and the usual ones for what is not given. -/
def wireHeaders (userAgent method : String) (url : Url) (given : List (String × String)) :
    List (String × String) :=
  let headers := (userHeader url ++ given).foldl
    (fun headers header => setHeader (Text.asciiLower header.1) (Text.trim header.2) headers) []
  let headers := setDefault "user-agent" userAgent headers
  if method = "GET" then headers else setDefault "content-type" "application/json" headers

/-- Builds the request for a method, with the address it goes to. -/
def build (userAgent method : String) (request : WebhookRequest) :
    Except String (WireRequest × Url) :=
  match Url.parse request.url with
  | .error error => .error ("builder error: " ++ error.message)
  | .ok url =>
    let badScheme := "builder error for url (" ++ url.text ++ "): URL scheme is not allowed"
    if !url.hasHost then .error badScheme
    else
      match headerFault request.headers with
      | some fault => .error fault
      | none =>
        if url.scheme != "http" && url.scheme != "https" then .error badScheme
        else
          .ok
            ({ method
               target := url.target
               headers := wireHeaders userAgent method url request.headers
               body := if method = "GET" then none else some request.payload },
              url)

/-- What is said of a status that is no success. -/
def refusedText (url : String) (code : Nat) : String := url ++ " responded with " ++ statusText code

def attemptError (url : String) : AttemptResult → WorkflowError
  | .status code => .collaborator "webhook" (refusedText url code)
  | .transport message => .collaborator "webhook" message
  | .building message => .collaborator "webhook" message

/-- Is an attempt worth another one? -/
def AttemptResult.isRetryable : AttemptResult → Bool
  | .status code => Web.isRetryable code
  | .transport _ => true
  | .building _ => false

/-- One thing done in a delivery: an attempt with what it came to, or a wait. -/
inductive DeliveryStep where
  | attempt (outcome : AttemptResult)
  | wait (milliseconds : Nat)
  deriving DecidableEq, Repr

def DeliveryStep.isAttempt : DeliveryStep → Bool
  | .attempt _ => true
  | .wait _ => false

/-- How a delivery went: its result, and what was done for it in order. -/
structure DeliveryRun where
  result : Except WorkflowError WebhookDelivery
  steps : List DeliveryStep

/-- How many attempts were made. -/
def DeliveryRun.attempts (run : DeliveryRun) : Nat := run.steps.countP DeliveryStep.isAttempt

/-- The milliseconds to wait after an attempt.  The factor doubles with every attempt and stays at
the greatest number of thirty-two bits. -/
def waitAfter (backoffMs attempt : Nat) : Nat :=
  backoffMs * min (Number.twos (attempt - 1)) (Number.twos 32 - 1)

/-- The first number of milliseconds that is too long for a wait, whose seconds have sixty-four
bits. -/
def waitBound : Nat := Number.twos 64 * 1000

/-- The first number that no attempt can have. -/
def attemptBound : Nat := Number.twos 32

/-- What an attempt means for the delivery when no other follows it. -/
def conclude (url : String) (attempt : Nat) (outcome : AttemptResult) :
    Except WorkflowError WebhookDelivery :=
  match outcome with
  | .status code =>
    if isSuccess code then .ok ⟨code, attempt⟩ else .error (attemptError url outcome)
  | _ => .error (attemptError url outcome)

/-- Makes attempts until one is not worth another or none is left; the argument counts those that
may follow the next one.  Breaks off when a wait is too long or an attempt cannot be counted. -/
def attemptFrom (peer : Nat → AttemptResult) (url : String) (backoffMs : Nat) :
    Nat → Nat → Ending DeliveryRun
  | 0, attempt => .value ⟨conclude url attempt (peer attempt), [.attempt (peer attempt)]⟩
  | left + 1, attempt =>
    if (peer attempt).isRetryable then
      let wait := waitAfter backoffMs attempt
      if wait < waitBound ∧ attempt + 1 < attemptBound then
        (attemptFrom peer url backoffMs left (attempt + 1)).map fun run =>
          { run with steps := .attempt (peer attempt) :: .wait wait :: run.steps }
      else .panic
    else .value ⟨conclude url attempt (peer attempt), [.attempt (peer attempt)]⟩

/-- Delivers a webhook to a server that answers the attempts, counted from one. -/
def deliver (config : WebhookConfig) (peer : Nat → AttemptResult) (request : WebhookRequest) :
    Ending DeliveryRun :=
  match readMethod request.method with
  | .error error => .value ⟨.error error, []⟩
  | .ok _ => attemptFrom peer request.url config.retryBackoffMs config.maxRetries 1

end RecordRules.Web
