import RecordRules.Json.DecodeError

/-!
# Automation errors

What can go wrong while automation runs, by cause.  Errors of authoring lie in how an automation
was written; the others lie in the infrastructure.
-/

namespace RecordRules

/-- Why a request to the database failed. -/
inductive DatabaseError where
  | reported (message : String)
  | badColumn (column reason : String)
  | poolClosed
  deriving DecidableEq, Repr

def DatabaseError.message : DatabaseError → String
  | .reported message => "error returned from database: " ++ message
  | .badColumn column reason =>
    "error occurred while decoding column \"" ++ column ++ "\": " ++ reason
  | .poolClosed => "attempted to acquire a connection on a closed pool"

/-- What can go wrong in automation. -/
inductive WorkflowError where
  /-- A condition or an action is malformed. -/
  | configuration (message : String)
  /-- A field, user or link that is referred to does not exist. -/
  | resolution (message : String)
  /-- A collaborator failed. -/
  | collaborator (service message : String)
  | database (cause : DatabaseError)
  | serialization (message : String)
  | cancelled
  deriving DecidableEq, Repr

namespace WorkflowError

def message : WorkflowError → String
  | .configuration message => "Configuration error: " ++ message
  | .resolution message => "Resolution error: " ++ message
  | .collaborator service message => service ++ " error: " ++ message
  | .database cause => "Database error: " ++ cause.message
  | .serialization message => "Serialization error: " ++ message
  | .cancelled => "Processing cancelled"

def code : WorkflowError → String
  | .configuration _ => "CONFIGURATION_ERROR"
  | .resolution _ => "RESOLUTION_ERROR"
  | .collaborator _ _ => "COLLABORATOR_ERROR"
  | .database _ => "DATABASE_ERROR"
  | .serialization _ => "SERIALIZATION_ERROR"
  | .cancelled => "CANCELLED"

/-- Lies the error in how an automation was written? -/
def isAuthoring : WorkflowError → Bool
  | .configuration _ => true
  | .resolution _ => true
  | _ => false

/-- A value that could not be decoded, as an error of automation. -/
def ofDecode (error : Json.DecodeError) : WorkflowError := .serialization error.message

end WorkflowError

end RecordRules
