import RecordRules.Host.Run
import RecordRules.Json.Basic
import RecordRules.Number.Power
import RecordRules.Web.Url

/-!
# Database pools

The settings of a pool of connections, and how a pool is opened: a database that does not exist is
created first.
-/

namespace RecordRules.Database

/-- The settings of a pool. -/
structure PoolConfig where
  maxConnections : Nat
  minConnections : Nat
  acquireTimeoutSecs : Nat
  idleTimeoutSecs : Nat
  deriving DecidableEq, Repr, Inhabited

namespace PoolConfig

def standard : PoolConfig := ⟨10, 2, 30, 600⟩

def fields (config : PoolConfig) : Fields :=
  [("acquire_timeout_secs", Json.ofNat config.acquireTimeoutSecs),
    ("idle_timeout_secs", Json.ofNat config.idleTimeoutSecs),
    ("max_connections", Json.ofNat config.maxConnections),
    ("min_connections", Json.ofNat config.minConnections)]

end PoolConfig

/-- The name of the database in an address; without one it is that of the user. -/
def databaseName (url : Web.Url) : String :=
  let name := String.ofList (url.path.toList.dropWhile (· == '/'))
  if name.isEmpty then url.username else name

def createStatement (name : String) : String :=
  let quoted := name.toList.flatMap fun c => if c == '"' then ['"', '"'] else [c]
  "CREATE DATABASE \"" ++ String.ofList quoted ++ "\""

/-- The seconds that a clock cannot count on to. -/
def endOfClock : Nat := Number.twos 63

/-- The opening of a pool: the statements executed, and the settings or what is wrong. -/
structure Opening where
  created : List String
  result : Ending (Except String PoolConfig)

/-- Opens a pool on an address, where the database exists or not. -/
def openPool (config : PoolConfig) (address : String) (doesExist : Bool) : Opening :=
  match Web.Url.parse address with
  | .error error => ⟨[], .value (.error ("error with configuration: " ++ error.message))⟩
  | .ok url =>
    let created := if doesExist then [] else [createStatement (databaseName url)]
    if endOfClock ≤ config.acquireTimeoutSecs then ⟨created, .panic⟩
    else if config.maxConnections = 0 ∨ config.acquireTimeoutSecs = 0 then
      ⟨created, .value (.error "pool timed out while waiting for an open connection")⟩
    else ⟨created, .value (.ok config)⟩

end RecordRules.Database
