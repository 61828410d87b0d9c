import RecordRules.Action.Result
import RecordRules.Host.Basic
import RecordRules.Record.Snapshot
import RecordRules.Record.Write
import RecordRules.Template
import RecordRules.Time.DueDate

/-!
# Execution of actions

One action is run against a record, or put off when it carries a delay.  Running an action never
breaks off and never ends in an error: whatever goes wrong becomes a failed result.  Only updates
of a field and assignments of an owner change the record.
-/

namespace RecordRules

/-- For which rule an action runs, and on whose behalf. -/
structure ExecutionContext where
  workflowId : Uuid
  ruleId : Uuid
  actingUserId : Option String
  tenantId : Option String
  deriving DecidableEq, Repr, Inhabited

/-- The circumstances of a run, for one of its rules. -/
def ExecutionContext.ofTrigger (workflowId ruleId : Uuid) (context : TriggerContext) :
    ExecutionContext :=
  ⟨workflowId, ruleId, context.actingUserId, context.tenantId⟩

namespace Execution

/-- A text with its placeholders resolved, without blanks at its ends. -/
def resolveTrimmed (raw : String) (record : Record) : String :=
  Text.trim (Template.resolve raw record)

/-- An optional user after resolution, else the acting one. -/
def resolveUser (raw : Option String) (record : Record) (context : ExecutionContext) :
    Option String :=
  match raw.map fun raw => resolveTrimmed raw record with
  | some user => if user.isEmpty then context.actingUserId else some user
  | none => context.actingUserId

/-- Writes the resolved literal to the field. -/
def updateField (config : UpdateFieldConfig) (record : Record) :
    Except WorkflowError (ActionResult × Record) := do
  let literal := Template.resolve config.value record
  let (value, record) ← record.setLiteral config.field literal
  return (.success ("Set " ++ config.field ++ " to " ++ literal)
    (.object [("field", .string config.field), ("value", value)]), record)

/-- The fields that may hold the owner of a record, the most specific first. -/
def ownerFields : List String :=
  ["AssignedToUserId", "AssignedTo", "AssigneeId", "Assignee", "assigned_to", "OwnerId", "Owner",
   "owner_id"]

/-- Writes the resolved owner to the first owner field that the record has. -/
def assignOwner (config : AssignOwnerConfig) (record : Record) :
    Except WorkflowError (ActionResult × Record) := do
  let owner := resolveTrimmed config.owner record
  if owner.isEmpty then
    throw (.resolution ("owner '" ++ config.owner ++ "' resolved to an empty value"))
  match ownerFields.find? fun name => record.hasField name with
  | none =>
    throw (.resolution
      ("record type " ++ record.recordType ++ " has no assignee or owner field"))
  | some field =>
    let (_, record) ← record.setLiteral field owner
    return (.success ("Assigned to " ++ owner)
      (.object [("field", .string field), ("owner", .string owner)]), record)

/-- The address of a recipient: what contains an at sign is one; anything else is a user. -/
def resolveEmail (raw : String) (record : Record) : Attempt String := do
  let resolved := resolveTrimmed raw record
  if resolved.isEmpty then
    throw (.resolution ("recipient '" ++ raw ++ "' resolved to an empty value"))
  if resolved.toList.contains '@' then return resolved
  match ← Host.findUser resolved with
  | none => throw (.resolution ("no user found for recipient '" ++ resolved ++ "'"))
  | some user =>
    match user.email with
    | some email =>
      if Text.isAllBlank email then
        throw (.resolution ("user '" ++ user.id ++ "' has no email address"))
      else return email
    | none => throw (.resolution ("user '" ++ user.id ++ "' has no email address"))

def sendEmail (config : SendEmailConfig) (record : Record) : Attempt ActionResult := do
  let address ← resolveEmail config.recipient record
  let subject := Template.resolve config.subject record
  Host.sendEmail ⟨address, subject, Template.resolve config.body record, config.isHtml⟩
  return .success ("Email sent to " ++ address)
    (.object [("subject", .string subject), ("to", .string address)])

def createFollowUp (kind : FollowUpKind) (config : FollowUpConfig) (record : Record)
    (context : ExecutionContext) : Attempt ActionResult := do
  match ← Host.linkField? record.recordType with
  | none =>
    throw (.resolution
      ("no follow-up link registered for record type " ++ record.recordType))
  | some linkField =>
    let now ← Host.clock
    let dueAt := config.dueDate.bind fun raw => Time.dueDate (Template.resolve raw record) now
    let followUp : FollowUp := {
      id := ← Host.mintId
      kind
      subject := Template.resolve config.subject record
      description := config.description.map fun raw => Template.resolve raw record
      followUpType := config.followUpType
      priority := config.priority
      dueAt
      assignedTo := resolveUser config.assignedTo record context
      linkField
      linkedRecordId := record.id
      createdBy := context.actingUserId
      createdAt := now }
    let id ← Host.createFollowUp followUp
    return .success ("Created " ++ kind.name ++ " '" ++ followUp.subject ++ "'")
      (.object [("assigned_to", Json.ofText? followUp.assignedTo),
        ("due_at", Json.ofOption Time.Instant.toJson dueAt), ("follow_up_id", id.toJson)])

/-- What a webhook sends when nothing else is said: the record itself. -/
def recordPayload (record : Record) : Json :=
  .object [("fields", .object record.fields), ("record_id", .string record.id),
    ("record_type", .string record.recordType)]

def sendWebhook (config : SendWebhookConfig) (record : Record) : Attempt ActionResult := do
  let url := Template.resolve config.url record
  if !("http://".isPrefixOf url || "https://".isPrefixOf url) then
    throw (.configuration ("invalid webhook url: " ++ url))
  let payload :=
    match config.payload with
    | some template => Template.resolveJson record template
    | none => recordPayload record
  let headers := config.headers.map fun (name, value) => (name, Template.resolve value record)
  let delivery ← Host.deliverWebhook ⟨url, config.method, payload, headers⟩
  return .success
    ("Delivered to " ++ url ++ " (status " ++ Number.natText delivery.statusCode ++ ")")
    (.object [("attempts", Json.ofNat delivery.attempts),
      ("status_code", Json.ofNat delivery.statusCode)])

def createRecord (config : CreateRecordConfig) (record : Record) : Attempt ActionResult := do
  let id ← Host.createRecord config.recordType (Template.resolveFields record config.fields)
  return .success ("Created " ++ config.recordType ++ " " ++ id)
    (.object [("record_id", .string id), ("record_type", .string config.recordType)])

def updateRelated (config : UpdateRelatedConfig) (record : Record) : Attempt ActionResult := do
  match config.linkField.or (← Host.linkField? record.recordType) with
  | none =>
    throw (.resolution
      ("no link registered from " ++ config.relatedType ++ " to " ++ record.recordType))
  | some linkField =>
    let updated ← Host.updateRelated config.relatedType linkField record.id
      (Template.resolveFields record config.fields)
    return .success
      ("Updated " ++ Number.natText updated ++ " " ++ config.relatedType ++ " records")
      (.object [("updated", Json.ofNat updated)])

/-- The channels of a notification that names none, or those it names. -/
def channelsOf (config : NotificationConfig) : ChannelMask :=
  match config.channels with
  | some names => ChannelMask.read names
  | none => .inApp

def sendNotification (channels : ChannelMask) (config : NotificationConfig) (record : Record)
    (context : ExecutionContext) : Attempt ActionResult := do
  match resolveUser config.recipient record context with
  | none => throw (.resolution "notification has no recipient and no acting user")
  | some userId =>
    let title := (config.title.map fun raw => Template.resolve raw record).getD "Notification"
    let id ← Host.sendNotification
      ⟨userId, title, Template.resolve config.message record, channels, some record.recordType,
        some record.id⟩
    return .success ("Notified " ++ userId ++ " via " ++ channels.text)
      (.object [("notification_id", id.toJson)])

/-- An effect outside the record, which stays as it is. -/
def beside (record : Record) (work : Attempt ActionResult) : Attempt (ActionResult × Record) := do
  return (← work, record)

/-- Runs an action for its effect; gives the result and the record afterwards. -/
def dispatch (definition : ActionDefinition) (record : Record) (context : ExecutionContext) :
    Attempt (ActionResult × Record) :=
  match definition with
  | .updateField config => ExceptT.mk (pure (updateField config record))
  | .sendEmail config => beside record (sendEmail config record)
  | .createTask config => beside record (createFollowUp .task config record context)
  | .createActivity config => beside record (createFollowUp .activity config record context)
  | .assignOwner config => ExceptT.mk (pure (assignOwner config record))
  | .sendWebhook config => beside record (sendWebhook config record)
  | .createRecord config => beside record (createRecord config record)
  | .updateRelated config => beside record (updateRelated config record)
  | .sendNotification config =>
    beside record (sendNotification (channelsOf config) config record context)
  | .sendSms config => beside record (sendNotification .sms config record context)
  | .invalid _ tag fault _ =>
    throw (.configuration ("invalid " ++ tag ++ " action: " ++ fault.message))

/-- Runs an action now, whatever its delay; gives the result and the record afterwards. -/
def executeNow (action : Action) (record : Record) (context : ExecutionContext) :
    Run Host (ActionResult × Record) := do
  match ← (dispatch action.definition record context).run.guarded with
  | some (.ok done) => return done
  | some (.error error) => return (.failure error.message, record)
  | none =>
    return (.failure ("action '" ++ action.name ++ "' panicked during execution"), record)

/-- Puts an action off by its delay, against the record as it is. -/
def schedule (action : Action) (record : Record) (context : ExecutionContext) :
    Run Host ActionResult := do
  let now ← Host.clock
  match now.addSeconds (action.delayMinutes * 60) with
  | none => Run.breakOff
  | some runAt =>
    let delayed : DelayedAction := {
      id := ← Host.mintId
      actionId := action.id
      ruleId := context.ruleId
      workflowId := context.workflowId
      recordType := record.recordType
      recordId := record.id
      recordSnapshot := record.toJson
      actingUserId := context.actingUserId
      tenantId := context.tenantId
      runAt
      createdAt := now }
    match ← (Host.scheduleDelayed delayed).run with
    | .ok () =>
      return .pending ("Scheduled for " ++ runAt.text)
        (.object [("delayed_action_id", delayed.id.toJson), ("run_at", runAt.toJson)])
    | .error error =>
      return .failure ("failed to schedule delayed action: " ++ error.message)

/-- Runs an action, or puts it off when it carries a delay and there is a queue for it; gives the
result and the record afterwards. -/
def execute (action : Action) (record : Record) (context : ExecutionContext) :
    Run Host (ActionResult × Record) := do
  if (← Run.gets Host.defersActions) && decide (0 < action.delayMinutes) then
    return (← schedule action record context, record)
  else executeNow action record context

end Execution

end RecordRules
