import RecordRules.Engine.Basic

/-!
# Batches of delayed actions

Delayed actions that have come due are claimed, run one after another, and completed whatever came
of them.
-/

namespace RecordRules

/-- What a batch came to, in numbers. -/
structure BatchResult where
  claimed : Nat
  succeeded : Nat
  failed : Nat
  skipped : Nat
  deriving DecidableEq, Repr, Inhabited

namespace BatchResult

/-- Counts one more action by its status. -/
def add (result : BatchResult) : Status → BatchResult
  | .failed => { result with failed := result.failed + 1 }
  | .skipped => { result with skipped := result.skipped + 1 }
  | .success => { result with succeeded := result.succeeded + 1 }
  | .pending => { result with succeeded := result.succeeded + 1 }

/-- Runs claimed actions and completes each; an action that cannot be completed has run all the
same. -/
def runAll (result : BatchResult) : List DelayedAction → Run Host BatchResult
  | [] => pure result
  | delayed :: rest => do
    let done ← Engine.runDelayed delayed
    let _ ← (Host.completeDelayed delayed.id).run
    runAll (result.add done.status) rest

/-- Claims a batch of due actions and runs them. -/
def run (batchSize : Int) : Attempt BatchResult := do
  let due ← Host.claimDue (← Host.clock) batchSize
  Host.answer (runAll ⟨due.length, 0, 0, 0⟩ due)

def toJson (result : BatchResult) : Json :=
  .object [("claimed", Json.ofNat result.claimed), ("failed", Json.ofNat result.failed),
    ("skipped", Json.ofNat result.skipped), ("succeeded", Json.ofNat result.succeeded)]

end BatchResult

end RecordRules
