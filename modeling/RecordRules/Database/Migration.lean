import RecordRules.Number.Digits

/-!
# Migrations

The versions of the database schema.  Those that have not been applied are run in order; nothing is
run when an earlier attempt was left half done, or when a version was applied that is not known.
-/

namespace RecordRules.Database

/-- A known version of the schema; its script may change tables that exist already. -/
structure Migration where
  version : Int
  description : String
  altersTables : Bool
  deriving DecidableEq, Repr

/-- The versions of the schema in order. -/
def migrations : List Migration :=
  [⟨20240301000000, "workflow automation", false⟩, ⟨20240315000000, "delayed action leases", true⟩]

/-- A version that was applied, with whether its script was the known one. -/
structure Applied where
  version : Int
  modified : Bool
  deriving DecidableEq, Repr

/-- Why the schema was not brought up to date. -/
inductive MigrateError where
  | dirty (version : Int)
  | missing (version : Int)
  | modified (version : Int)
  | script (version : Int) (message : String)
  deriving DecidableEq, Repr

def MigrateError.message : MigrateError → String
  | .dirty version =>
    "migration " ++ Number.intText version
      ++ " is partially applied; fix and remove row from \x60_sqlx_migrations\x60 table"
  | .missing version =>
    "migration " ++ Number.intText version
      ++ " was previously applied but is missing in the resolved migrations"
  | .modified version =>
    "migration " ++ Number.intText version ++ " was previously applied but has been modified"
  | .script version message =>
    "while executing migration " ++ Number.intText version
      ++ ": error returned from database: " ++ message

/-- The state of a schema: versions applied, a version left half done, and a message with which
the first script that alters tables fails. -/
structure SchemaState where
  applied : List Applied
  dirty : Option Int
  failure : Option String

/-- The applied versions that are not known, the lowest first. -/
def unknownVersions (applied : List Applied) : List Int :=
  let isKnown (version : Int) : Bool :=
    migrations.any fun migration => migration.version == version
  ((applied.map Applied.version).filter fun version => !isKnown version).mergeSort fun a b =>
    decide (a ≤ b)

/-- Runs migrations in order: those run, and the error that stopped it, if any. -/
def runAll (state : SchemaState) : List Migration → List Migration × Option MigrateError
  | [] => ([], none)
  | migration :: rest =>
    match state.applied.find? fun applied => applied.version == migration.version with
    | some applied =>
      if applied.modified then ([], some (.modified migration.version)) else runAll state rest
    | none =>
      match migration.altersTables, state.failure with
      | true, some message => ([], some (.script migration.version message))
      | _, _ =>
        let (done, error) := runAll state rest
        (migration :: done, error)

/-- Brings a schema up to date: the migrations run, and the error that stopped it, if any. -/
def migrate (state : SchemaState) : List Migration × Option MigrateError :=
  match state.dirty with
  | some version => ([], some (.dirty version))
  | none =>
    match unknownVersions state.applied with
    | version :: _ => ([], some (.missing version))
    | [] => runAll state migrations

end RecordRules.Database
