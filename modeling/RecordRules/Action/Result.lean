import RecordRules.Status

/-!
# Results of actions

What running an action came to: its status, a message, and perhaps an output.
-/

namespace RecordRules

/-- What running an action came to. -/
structure ActionResult where
  status : Status
  message : String
  output : Option Json
  durationMs : Int
  deriving Repr, Inhabited

namespace ActionResult

def success (message : String) (output : Json) : ActionResult :=
  ⟨.success, message, some output, 0⟩

def failure (message : String) : ActionResult := ⟨.failed, message, none, 0⟩

def pending (message : String) (output : Json) : ActionResult :=
  ⟨.pending, message, some output, 0⟩

def skipped (message : String) : ActionResult := ⟨.skipped, message, none, 0⟩

/-- Did nothing go wrong? -/
def succeeded (result : ActionResult) : Bool :=
  result.status == .success || result.status == .pending

def isFailure (result : ActionResult) : Bool := result.status == .failed

open Json (required need orElse decodeText decodeInt64 decodeOption decodeAny)

def shape : Json.Shape :=
  ⟨"ActionResult",
   [required "status" Status.ofJson, required "message" decodeText,
    required "output" (decodeOption decodeAny), required "duration_ms" decodeInt64]⟩

def ofJson (json : Json) : Except Json.DecodeError ActionResult := do
  let fields ← shape.read json
  return {
    status := ← need fields "status" Status.ofJson
    message := ← need fields "message" decodeText
    output := ← orElse fields "output" none (decodeOption decodeAny)
    durationMs := ← need fields "duration_ms" decodeInt64 }

def toJson (result : ActionResult) : Json :=
  .object [("duration_ms", .int result.durationMs), ("message", .string result.message),
    ("output", result.output.getD .null), ("status", result.status.toJson)]

end ActionResult

end RecordRules
