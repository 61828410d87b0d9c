import RecordRules.Error
import RecordRules.Message.Email
import RecordRules.Message.Notification
import RecordRules.Message.WebhookRequest

/-!
# The outbox

What automation has sent: emails, notifications and webhook requests, in order.  An outbox may be
set up to refuse emails, or to answer webhook requests with any status.
-/

namespace RecordRules

/-- The messages sent, with the answers to further ones. -/
structure Outbox where
  emails : List Email
  notifications : List Notification
  webhooks : List WebhookRequest
  emailFailure : Option String
  webhookStatus : Nat
  deriving Repr, Inhabited

namespace Outbox

/-- An empty outbox. -/
def empty (emailFailure : Option String) (webhookStatus : Nat) : Outbox :=
  ⟨[], [], [], emailFailure, webhookStatus⟩

/-- Sends an email, unless emails are refused; a refused one is not kept. -/
def sendEmail (outbox : Outbox) (email : Email) : Except WorkflowError Unit × Outbox :=
  match outbox.emailFailure with
  | some message => (.error (.collaborator "email" message), outbox)
  | none => (.ok (), { outbox with emails := outbox.emails ++ [email] })

def sendNotification (outbox : Outbox) (notification : Notification) : Outbox :=
  { outbox with notifications := outbox.notifications ++ [notification] }

/-- Sends a webhook request; one answered outside 2xx is kept all the same. -/
def deliver (outbox : Outbox) (request : WebhookRequest) :
    Except WorkflowError WebhookDelivery × Outbox :=
  let status := outbox.webhookStatus
  let answer : Except WorkflowError WebhookDelivery :=
    if 200 ≤ status ∧ status < 300 then .ok ⟨status, 1⟩
    else .error
      (.collaborator "webhook" (request.url ++ " responded with " ++ Number.natText status))
  (answer, { outbox with webhooks := outbox.webhooks ++ [request] })

end Outbox

end RecordRules
