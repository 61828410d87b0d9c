import RecordRules.Host.Run
import RecordRules.Web.Delivery

/-!
# Web servers

A server known by the statuses with which it answers.  It takes what arrives and answers each
attempt in turn, or closes the connection without an answer.
-/

namespace RecordRules.Web

/-- The statuses of a server in order, of which the last is repeated; zero for no answer. -/
structure Server where
  statuses : List Nat
  deriving Repr, Inhabited

namespace Server

/-- The status for an attempt, counted from one. -/
def status (server : Server) (attempt : Nat) : Nat :=
  ((server.statuses[attempt - 1]?).or server.statuses.getLast?).getD 200

/-- What is said when the connection is closed without an answer. -/
def closedText (url : Url) : String :=
  "error sending request for url (" ++ url.text ++ "): connection closed before message completed"

def answer (server : Server) (url : Url) (attempt : Nat) : AttemptResult :=
  match server.status attempt with
  | 0 => .transport (closedText url)
  | code => .status code

end Server

/-- Delivers a webhook to a server; tells also what arrived there.  The sender must have a name that
can be a header, and breaks off when an address cannot be called. -/
def deliverTo (server : Server) (config : WebhookConfig) (request : WebhookRequest) :
    Ending (DeliveryRun × List WireRequest) :=
  match valueFault config.userAgent with
  | some fault => .value (⟨.error (.collaborator "webhook" fault), []⟩, [])
  | none =>
    match readMethod request.method with
    | .error error => .value (⟨.error error, []⟩, [])
    | .ok method =>
      match build config.userAgent method request with
      | .error message =>
        (deliver config (fun _ => .building message) request).map fun run => (run, [])
      | .ok (wire, url) =>
        if url.isCallable then
          (deliver config (server.answer url) request).map fun run =>
            (run, List.replicate run.attempts wire)
        else .panic

end RecordRules.Web
