import RecordRules.Error
import RecordRules.Host.Run
import RecordRules.Json.Decode
import RecordRules.Json.Printer
import RecordRules.Json.Reader

/-!
# Database connections

Statements with bound parameters go to a database, which answers each with rows, with a number of
affected rows, or with an error.  A connection keeps the answers that are still to come and what
has been executed.
-/

namespace RecordRules.Sql

/-- A bound parameter. -/
inductive Param where
  | null
  | text (value : String)
  | int (value : Int)
  | json (value : Json)
  | time (value : Time.Instant)
  | ids (values : List Uuid)
  deriving Repr, Inhabited

namespace Param

def id (value : Uuid) : Param := .text value.text

def text? (value : Option String) : Param :=
  match value with
  | some value => .text value
  | none => .null

def id? (value : Option Uuid) : Param :=
  match value with
  | some value => .id value
  | none => .null

def time? (value : Option Time.Instant) : Param :=
  match value with
  | some value => .time value
  | none => .null

end Param

/-- JSON as the database keeps it, as a text that is read again. -/
def reread (value : Json) : Json :=
  match Json.parse value.print with
  | .ok value => value
  | .error _ => value

/-- The first second of the year 2000, from which the database counts. -/
def epochSeconds : Int := 946684800

/-- An instant as the database keeps it, in whole microseconds from its epoch; what is below a
microsecond is cut off towards the epoch. -/
def cut (instant : Time.Instant) : Time.Instant :=
  let nanos := (instant.seconds - epochSeconds) * 1000000000 + instant.nanos
  let micros := nanos.tdiv 1000
  ⟨epochSeconds + micros / 1000000, (micros % 1000000).toNat * 1000⟩

/-- A statement with its parameters. -/
structure Statement where
  sql : String
  params : List Param
  deriving Repr, Inhabited

/-- The answer to a statement. -/
inductive Reply where
  | rows (rows : List Fields) (affected : Nat)
  | error (message : String)
  deriving Repr, Inhabited

/-- A connection: whether it is open, the answers to come, and the statements executed. -/
structure Connection where
  isOpen : Bool
  replies : List Reply
  executed : List Statement
  deriving Repr, Inhabited

/-- Work on a connection that may end with an error. -/
abbrev Query (α : Type) := ExceptT DatabaseError (Run Connection) α

/-- Executes a statement: the rows of the answer and the number of affected rows.  There is
nothing when no answers are left. -/
def send (sql : String) (params : List Param) : Query (List Fields × Nat) :=
  ExceptT.mk <| Run.update fun connection =>
    if connection.isOpen then
      let executed := connection.executed ++ [⟨sql, params⟩]
      match connection.replies with
      | [] => (.ok ([], 0), { connection with executed })
      | .rows rows affected :: replies =>
        (.ok (rows, affected), { connection with replies, executed })
      | .error message :: replies =>
        (.error (.reported message), { connection with replies, executed })
    else (.error .poolClosed, connection)

/-- Executes a statement and gives the number of affected rows. -/
def execute (sql : String) (params : List Param) : Query Nat := do
  return (← send sql params).2

abbrev RowReader (α : Type) := Fields → Except DatabaseError α

def fetchAll (read : RowReader α) (sql : String) (params : List Param) : Query (List α) := do
  let (rows, _) ← send sql params
  ExceptT.mk (pure (rows.mapM read))

/-- Executes a statement and reads the first row, if there is one. -/
def fetchFirst (read : RowReader α) (sql : String) (params : List Param) : Query (Option α) := do
  let (rows, _) ← send sql params
  match rows with
  | [] => return none
  | row :: _ => ExceptT.mk (pure ((read row).map some))

/-- What is said of a null where there must be a value. -/
def unexpectedNull (name : String) : DatabaseError :=
  .badColumn name "unexpected null; try decoding as an `Option`"

def nullable (read : Json → Option α) (name : String) : RowReader (Option α) := fun row =>
  .ok ((Fields.get? name row).bind read)

/-- The value of a column that must not be null. -/
def column (read : Json → Option α) (name : String) : RowReader α := fun row =>
  match (Fields.get? name row).bind read with
  | some value => .ok value
  | none => .error (unexpectedNull name)

def asText : Json → Option String
  | .string s => some s
  | _ => none

def asInt : Json → Option Int
  | .int n => some n
  | _ => none

def asBool : Json → Option Bool
  | .bool b => some b
  | _ => none

def asId (json : Json) : Option Uuid := (asText json).bind Uuid.read?

def asTime (json : Json) : Option Time.Instant :=
  (asText json).bind fun s => (Time.readStored s).toOption.map cut

def asTexts : Json → Option (List String)
  | .array items => items.mapM asText
  | _ => none

/-- JSON in a column; the null of JSON is a value. -/
def asJson (json : Json) : Option Json := some (reread json)

/-- The label of an enumeration; an unknown one is reported with the enumeration's name. -/
def labelled (type : String) (known : List (String × α)) (name : String) : RowReader α :=
  fun row => do
  let label ← column asText name row
  match known.lookup label with
  | some value => return value
  | none => throw (.badColumn name ("invalid value \"" ++ label ++ "\" for enum " ++ type))

end RecordRules.Sql
