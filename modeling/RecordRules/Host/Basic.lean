import RecordRules.Delay.Queue
import RecordRules.Host.Fault
import RecordRules.Host.Run
import RecordRules.Links
import RecordRules.Message.Outbox
import RecordRules.Store.RecordStore
import RecordRules.Store.WorkflowStore
import RecordRules.Trigger
import RecordRules.User

/-!
# The surroundings of automation

Everything that automation reads and writes, as one state, and the calls by which it does so.
A call is counted, may be disturbed by the fault plan, and is answered with a value or an error,
or breaks off.
-/

namespace RecordRules

/-- The surroundings of automation. -/
structure Host where
  store : WorkflowStore
  records : RecordStore
  outbox : Outbox
  users : List UserContact
  links : LinkRegistry
  queue : DelayedQueue
  /-- Are delayed actions put into the queue, rather than run at once? -/
  defersActions : Bool
  ids : IdSupply
  now : Time.Instant
  /-- How many more questions for cancellation are answered with no; without end if missing. -/
  patience : Option Nat
  faults : FaultPlan
  calls : Method → Nat

/-- A computation within the surroundings that may end with an error. -/
abbrev Attempt (α : Type) := ExceptT WorkflowError (Run Host) α

namespace Host

/-- Calm surroundings in which nothing has happened yet, at an instant. -/
def ofWorkflows (workflows : List Workflow) (now : Time.Instant) : Host where
  store := .ofWorkflows workflows
  records := ⟨[]⟩
  outbox := .empty none 200
  users := []
  links := .standard
  queue := .empty 300
  defersActions := false
  ids := ⟨0⟩
  now := now
  patience := none
  faults := .calm
  calls := fun _ => 0

/-- The surroundings under another plan of faults, with no call counted yet. -/
def disturbed (host : Host) (faults : FaultPlan) : Host :=
  { host with faults, calls := fun _ => 0 }

/-- The surroundings with nothing recorded and nobody asking for cancellation. -/
def cleared (host : Host) : Host :=
  { host with
    patience := none
    store := { host.store with logs := [], followUps := [] }
    outbox := { host.outbox with emails := [], notifications := [], webhooks := [] } }

def mintId : Run Host Uuid :=
  Run.update fun host => let (id, ids) := host.ids.draw; (id, { host with ids })

/-- The present instant. -/
def clock : Run Host Time.Instant := Run.gets Host.now

def linkField? (recordType : String) : Run Host (Option String) :=
  Run.gets fun host => host.links.linkField? recordType

/-- Asks for cancellation from now on. -/
def cancel : Run Host Unit := Run.modify fun host => { host with patience := some 0 }

def isCancelled (context : TriggerContext) : Run Host Bool :=
  if context.cancellable then
    Run.update fun host =>
      match host.patience with
      | none => (false, host)
      | some 0 => (true, host)
      | some (rest + 1) => (false, { host with patience := some rest })
  else pure false

/-- Counts a call and says how it is disturbed. -/
def consult (method : Method) : Run Host Disturbance :=
  Run.update fun host =>
    (host.faults method (host.calls method),
      { host with
        calls := fun other => if other = method then host.calls other + 1 else host.calls other })

/-- The error of a call that is made to fail. -/
def injected (method : Method) : WorkflowError :=
  .collaborator "injected" (method.name ++ " failed")

/-- Makes a call, which may be disturbed, to one of two workings: the usual one, and the one when
nothing is to be selected. -/
def callEither (method : Method) (usual unfiltered : Attempt α) : Attempt α :=
  ExceptT.mk do
    match ← consult method with
    | .none => usual.run
    | .error => return .error (injected method)
    | .panic => Run.breakOff
    | .cancel =>
      cancel
      usual.run
    | .unfiltered => unfiltered.run

/-- Makes a call, which may be disturbed. -/
def call (method : Method) (work : Attempt α) : Attempt α := callEither method work work

/-- A working that cannot fail. -/
def answer (work : Run Host α) : Attempt α := ExceptT.lift work

/-- A working that changes nothing. -/
def look (view : Host → α) : Attempt α := answer (Run.gets view)

/-- The active workflows for a record type and a trigger in execution order. -/
def loadWorkflows (recordType : String) (trigger : TriggerType) : Attempt (List Workflow) :=
  callEither .loadWorkflows
    (look fun host => Workflow.applicable host.store.workflows recordType trigger)
    (look fun host => host.store.workflows)

/-- The active workflows that run by a schedule. -/
def scheduledWorkflows : Attempt (List Workflow) :=
  call .scheduledWorkflows (look fun host => host.store.scheduled)

def loadWorkflow (id : Uuid) : Attempt (Option Workflow) :=
  call .loadWorkflow (look fun host => host.store.workflow? id)

def loadAction (id : Uuid) : Attempt (Option Action) :=
  call .loadAction (look fun host => host.store.action? id)

/-- What the store does with an entry: it is taken, unless writes to the log fail. -/
def storeEntry (entry : LogEntry) : Attempt Unit :=
  ExceptT.mk <| Run.update fun host =>
    if host.store.logWritesFail then
      (.error (.collaborator "execution log" "log store unavailable"), host)
    else (.ok (), { host with store := host.store.appendLog entry })

def appendLog (entry : LogEntry) : Attempt Unit := call .appendLog (storeEntry entry)

def createFollowUp (followUp : FollowUp) : Attempt Uuid :=
  call .createFollowUp <| answer <| Run.update fun host =>
    (followUp.id, { host with store := host.store.addFollowUp followUp })

def saveRecordChanges (recordType recordId : String) (changes : Fields) : Attempt Unit :=
  call .saveRecordChanges <| answer <| Run.modify fun host =>
    { host with store := host.store.saveChanges recordType recordId changes }

/-- Creates a record and gives its identifier. -/
def createRecord (recordType : String) (fields : Fields) : Attempt String :=
  call .createRecord <| answer do
    let id ← mintId
    Run.modify fun host =>
      { host with records := host.records.insert (Record.ofFields recordType id.text fields) }
    return id.text

/-- Overwrites fields of the linked records and gives their number. -/
def updateRelated (recordType linkField parentId : String) (fields : Fields) : Attempt Nat :=
  call .updateRelated <| answer <| Run.update fun host =>
    (host.records.countRelated recordType linkField parentId,
      { host with records := host.records.updateRelated recordType linkField parentId fields })

def loadRecords (recordType : String) : Attempt (List Record) :=
  call .loadRecords (look fun host => host.records.ofType recordType)

def sendEmail (email : Email) : Attempt Unit :=
  call .email <| ExceptT.mk <| Run.update fun host =>
    let (answer, outbox) := host.outbox.sendEmail email
    (answer, { host with outbox })

/-- Sends a notification and gives its identifier. -/
def sendNotification (notification : Notification) : Attempt Uuid :=
  call .notification <| answer do
    Run.modify fun host => { host with outbox := host.outbox.sendNotification notification }
    mintId

def deliverWebhook (request : WebhookRequest) : Attempt WebhookDelivery :=
  call .webhook <| ExceptT.mk <| Run.update fun host =>
    let (answer, outbox) := host.outbox.deliver request
    (answer, { host with outbox })

/-- The user of an identifier; of several the last to be entered. -/
def findUser (id : String) : Attempt (Option UserContact) :=
  call .findUser (look fun host => host.users.reverse.find? fun user => user.id == id)

def scheduleDelayed (delayed : DelayedAction) : Attempt Unit :=
  call .scheduleDelayed <| answer <| Run.modify fun host =>
    { host with queue := host.queue.schedule delayed }

/-- Claims delayed actions; breaks off when the end of the lease is no representable instant. -/
def claimDue (now : Time.Instant) (limit : Int) : Attempt (List DelayedAction) :=
  call .claimDue <| answer do
    match ← Run.update fun host =>
      let (claimed, queue) := host.queue.claimDue now limit
      (claimed, { host with queue }) with
    | some claimed => return claimed
    | none => Run.breakOff

def completeDelayed (id : Uuid) : Attempt Unit :=
  call .complete <| answer <| Run.modify fun host =>
    { host with queue := host.queue.complete id }

end Host

end RecordRules
