import RecordRules.Proofs.DelayedRuns
import RecordRules.Proofs.LiteralWrites

/-!
# Actions have one effect or none

What an action does before its effect only looks, and after its effect nothing
can go wrong any more.  Hence an action that succeeds has had one effect, of its
own kind; one that fails has had none, unless it is a webhook request that was
sent and badly answered; and one that is put off is one more order in the queue.
-/

namespace RecordRules

open Host (Acts Effect Leads)

/-- Is it the effect beside the record that the action is for?  There is none
for what writes to the record, or cannot run. -/
def ActionDefinition.Intends (definition : ActionDefinition) : Effect → Prop
  | .emailed _ => ∃ config, definition = .sendEmail config
  | .followedUp followUp =>
    match followUp.kind with
    | .task => ∃ config, definition = .createTask config
    | .activity => ∃ config, definition = .createActivity config
  | .requested _ => ∃ config, definition = .sendWebhook config
  | .created record =>
    ∃ config, definition = .createRecord config ∧
      record.recordType = config.recordType
  | .related recordType _ _ _ =>
    ∃ config, definition = .updateRelated config ∧
      recordType = config.relatedType
  | .notified notification =>
    (∃ config, definition = .sendNotification config ∧
      notification.channels =
        (config.channels.map ChannelMask.read).getD .inApp) ∨
    ∃ config, definition = .sendSms config ∧ notification.channels = .sms
  | _ => False

/-- Is the action of a kind that does not write to its record? -/
def ActionDefinition.LeavesRecord (definition : ActionDefinition) : Prop :=
  (∀ config, definition ≠ .updateField config) ∧
    ∀ config, definition ≠ .assignOwner config

/-- Is the action to be put into the queue, rather than run? -/
def Action.IsPutOff (action : Action) (host : Host) : Prop :=
  host.defersActions = true ∧ 0 < action.delayMinutes

/-- Is a webhook request answered outside 2xx? -/
def Outbox.Refuses (outbox : Outbox) : Prop :=
  ¬ (200 ≤ outbox.webhookStatus ∧ outbox.webhookStatus < 300)

/-- Nothing has come of what was intended, but perhaps a webhook request that
was refused. -/
def Host.Fruitless (intended : Effect → Prop) (before later : Host) : Prop :=
  Leads [] before later ∨
    ∃ request, intended (.requested request) ∧ before.outbox.Refuses ∧
      Leads [.requested request] before later

/-! ## Attempts with one effect or none -/

namespace Host

variable {intended : Effect → Prop} {before middle later : Host}

theorem Leads.outbox_of_nil (h : Leads [] before later) :
    later.outbox = before.outbox := by
  obtain ⟨_, _, _, rfl⟩ := h
  rfl

theorem Fruitless.after
    (hfirst : Leads [] before middle)
    (h : Fruitless intended middle later) :
    Fruitless intended before later := by
  rcases h with hleads | ⟨request, hintended, hrefuses, hleads⟩
  · exact .inl (hfirst.trans hleads)
  · rw [hfirst.outbox_of_nil] at hrefuses
    exact .inr ⟨request, hintended, hrefuses, hfirst.trans hleads⟩

end Host

namespace Attempt

open Host (Fruitless)

variable {α β : Type} {intended : Effect → Prop}

/-- A success of the attempt has had one effect, as intended; without a success
it was fruitless. -/
def HasOne (intended : Effect → Prop) (x : Attempt α) : Prop :=
  ∀ host,
    (∃ a effect later, x.run host = (.value (.ok a), later) ∧
      intended effect ∧ Leads [effect] host later) ∨
    ∃ ending later, x.run host = (ending, later) ∧
      (∀ a, ending ≠ .value (.ok a)) ∧ Fruitless intended host later

namespace HasOne

theorem throw (error : WorkflowError) :
    HasOne intended (throw error : Attempt α) := by
  intro host
  exact .inr ⟨.value (.error error), host, rfl, by simp, .inl (.refl host)⟩

/-- What only looks may come before. -/
theorem after_looking
    {x : Attempt α} {next : α → Attempt β} (hx : Acts .loading x.run)
    (hnext : ∀ a, HasOne intended (next a)) :
    HasOne intended (x >>= next) := by
  intro host
  obtain ⟨effects, hnone, hfirst⟩ := hx.leads host
  obtain rfl : effects = [] := List.eq_nil_iff_forall_not_mem.mpr hnone
  rw [ExceptT.run_bind]
  rcases hs : x.run host with ⟨(error | a) | _, middle⟩
  · rw [hs] at hfirst
    rw [Run.bind_of_value hs]
    exact .inr ⟨.value (.error error), middle, rfl, by simp, .inl hfirst⟩
  · rw [hs] at hfirst
    rw [Run.bind_of_value hs]
    rcases hnext a middle with
      ⟨b, effect, later, hrun, hintended, hleads⟩ |
      ⟨ending, later, hrun, hfailed, hfruitless⟩
    · exact .inl ⟨b, effect, later, hrun, hintended, hfirst.trans hleads⟩
    · exact .inr ⟨ending, later, hrun, hfailed, hfruitless.after hfirst⟩
  · rw [hs] at hfirst
    rw [Run.bind_of_panic hs]
    exact .inr ⟨.panic, middle, rfl, by simp, .inl hfirst⟩

/-- Nothing can go wrong after the effect. -/
theorem then_give
    {x : Attempt α} (hx : HasOne intended x) (f : α → β) :
    HasOne intended (x >>= fun a => pure (f a)) := by
  intro host
  rw [ExceptT.run_bind]
  rcases hx host with
    ⟨a, effect, later, hrun, hintended, hleads⟩ |
    ⟨ending, later, hrun, hfailed, hfruitless⟩
  · rw [Run.bind_of_value hrun]
    exact .inl ⟨f a, effect, later, rfl, hintended, hleads⟩
  · rcases ending with (error | a) | _
    · rw [Run.bind_of_value hrun]
      exact .inr ⟨.value (.error error), later, rfl, by simp, hfruitless⟩
    · exact absurd rfl (hfailed a)
    · rw [Run.bind_of_panic hrun]
      exact .inr ⟨.panic, later, rfl, by simp, hfruitless⟩

/-- A call that is disturbed has no effect. -/
theorem of_call
    (method : Method) {work : Attempt α} (hwork : HasOne intended work) :
    HasOne intended (Host.call method work) := by
  intro host
  obtain ⟨started, hstarted, hcall⟩ := Host.call_run_cases method work host
  rcases hcall with hcall | ⟨-, hcall⟩ | ⟨-, hcall⟩
  · rcases hwork started with
      ⟨a, effect, later, hrun, hintended, hleads⟩ |
      ⟨ending, later, hrun, hfailed, hfruitless⟩
    · exact .inl ⟨a, effect, later, hcall.trans hrun, hintended,
        hstarted.trans hleads⟩
    · exact .inr ⟨ending, later, hcall.trans hrun, hfailed,
        hfruitless.after hstarted⟩
  · exact .inr ⟨_, started, hcall, by simp, .inl hstarted⟩
  · exact .inr ⟨_, started, hcall, by simp, .inl hstarted⟩

theorem of_answer
    {work : Run Host α}
    (hwork : ∀ host, ∃ a effect later, work host = (.value a, later) ∧
      intended effect ∧ Leads [effect] host later) :
    HasOne intended (Host.answer work) := by
  intro host
  obtain ⟨a, effect, later, hrun, hintended, hleads⟩ := hwork host
  refine .inl ⟨a, effect, later, ?_, hintended, hleads⟩
  change (Except.ok <$> work) host = _
  rw [map_eq_pure_bind, Run.bind_of_value hrun]
  rfl

end HasOne

end Attempt

/-! ## The calls that have effects -/

namespace Host

open Attempt (HasOne)

variable {intended : Effect → Prop}

theorem createFollowUp_hasOne
    (followUp : FollowUp) (h : intended (.followedUp followUp)) :
    HasOne intended (createFollowUp followUp) :=
  .of_call _ (.of_answer fun host => ⟨_, _, _, rfl, h, .of_effect host _⟩)

theorem createRecord_hasOne
    (recordType : String) (fields : Fields)
    (h : ∀ id : Uuid,
      intended (.created (Record.ofFields recordType id.text fields))) :
    HasOne intended (createRecord recordType fields) := by
  refine .of_call _ (.of_answer fun host => ?_)
  let drawn : Host := { host with ids := host.ids.draw.2 }
  have hdrawn : Leads [] host drawn := .of_counters host _ _ _
  exact ⟨_, _, _, rfl, h host.ids.draw.1, hdrawn.trans (.of_effect drawn _)⟩

theorem updateRelated_hasOne
    (recordType linkField parentId : String) (fields : Fields)
    (h : intended (.related recordType linkField parentId fields)) :
    HasOne intended (updateRelated recordType linkField parentId fields) :=
  .of_call _ (.of_answer fun host => ⟨_, _, _, rfl, h, .of_effect host _⟩)

theorem sendNotification_hasOne
    (notification : Notification) (h : intended (.notified notification)) :
    HasOne intended (sendNotification notification) := by
  refine .of_call _ (.of_answer fun host => ⟨_, _, _, rfl, h, ?_⟩)
  exact (Leads.of_effect host (.notified notification)).trans
    (.of_counters _ _ _ _)

/-- A refused email is not sent. -/
theorem sendEmail_hasOne (email : Email) (h : intended (.emailed email)) :
    HasOne intended (sendEmail email) := by
  refine .of_call _ fun host => ?_
  cases hfailure : host.outbox.emailFailure with
  | some message =>
      refine .inr ⟨.value (.error (.collaborator "email" message)), host, ?_,
        by simp, .inl (.refl host)⟩
      simp [ExceptT.run_mk, Run.update, Outbox.sendEmail, hfailure]
  | none =>
      refine .inl ⟨(), .emailed email, Effect.apply host (.emailed email), ?_,
        h, .of_effect host _⟩
      simp [ExceptT.run_mk, Run.update, Outbox.sendEmail, hfailure,
        Effect.apply]

/-- A refused webhook request has been sent. -/
theorem deliverWebhook_hasOne
    (request : WebhookRequest) (h : intended (.requested request)) :
    HasOne intended (deliverWebhook request) := by
  refine .of_call _ fun host => ?_
  let sent : Host := Effect.apply host (.requested request)
  have hsent : Leads [.requested request] host sent := .of_effect host _
  by_cases haccepted :
      200 ≤ host.outbox.webhookStatus ∧ host.outbox.webhookStatus < 300
  · refine .inl ⟨⟨host.outbox.webhookStatus, 1⟩, _, sent, ?_, h, hsent⟩
    simp [ExceptT.run_mk, Run.update, Outbox.deliver, haccepted, sent,
      Effect.apply]
  · let refusal : WorkflowError :=
      .collaborator "webhook"
        (request.url ++ " responded with " ++
          Number.natText host.outbox.webhookStatus)
    refine .inr ⟨.value (.error refusal), sent, ?_, by simp,
      .inr ⟨request, h, haccepted, hsent⟩⟩
    simp [ExceptT.run_mk, Run.update, Outbox.deliver, haccepted, sent, refusal,
      Effect.apply]

end Host

/-! ## Actions -/

namespace Execution

open Attempt (HasOne)
open Host (Fruitless)

theorem sendEmail_hasOne (config : SendEmailConfig) (record : Record) :
    HasOne (ActionDefinition.sendEmail config).Intends
      (sendEmail config record) :=
  .after_looking (acts_resolveEmail _ record) fun _ =>
    .then_give (Host.sendEmail_hasOne _ ⟨config, rfl⟩) _

theorem createFollowUp_hasOne
    {intended : Effect → Prop} (kind : FollowUpKind) (config : FollowUpConfig)
    (record : Record) (context : ExecutionContext)
    (h : ∀ followUp : FollowUp, followUp.kind = kind →
      intended (.followedUp followUp)) :
    HasOne intended (createFollowUp kind config record context) := by
  refine .after_looking (.attemptLift (.linkField? _)) fun link => ?_
  cases link with
  | none => exact .throw _
  | some linkField =>
      refine .after_looking (.attemptLift .clock) fun now => ?_
      refine .after_looking (.attemptLift .mintId) fun id => ?_
      exact .then_give (Host.createFollowUp_hasOne _ (h _ rfl)) _

theorem sendWebhook_hasOne (config : SendWebhookConfig) (record : Record) :
    HasOne (ActionDefinition.sendWebhook config).Intends
      (sendWebhook config record) := by
  unfold sendWebhook
  dsimp only
  split
  · exact .throw _
  · exact .then_give (Host.deliverWebhook_hasOne _ ⟨config, rfl⟩) _

theorem createRecord_hasOne (config : CreateRecordConfig) (record : Record) :
    HasOne (ActionDefinition.createRecord config).Intends
      (createRecord config record) :=
  .then_give
    (Host.createRecord_hasOne _ _ fun _ => ⟨config, rfl, rfl⟩) _

theorem updateRelated_hasOne (config : UpdateRelatedConfig) (record : Record) :
    HasOne (ActionDefinition.updateRelated config).Intends
      (updateRelated config record) := by
  refine .after_looking (.attemptLift (.linkField? _)) fun link => ?_
  cases config.linkField.or link with
  | none => exact .throw _
  | some linkField =>
      exact .then_give
        (Host.updateRelated_hasOne _ _ _ _ ⟨config, rfl, rfl⟩) _

theorem channelsOf_eq (config : NotificationConfig) :
    channelsOf config =
      (config.channels.map ChannelMask.read).getD .inApp := by
  unfold channelsOf
  cases config.channels <;> rfl

theorem sendNotification_hasOne
    {intended : Effect → Prop} (channels : ChannelMask)
    (config : NotificationConfig) (record : Record)
    (context : ExecutionContext)
    (h : ∀ notification : Notification, notification.channels = channels →
      intended (.notified notification)) :
    HasOne intended (sendNotification channels config record context) := by
  unfold sendNotification
  cases resolveUser config.recipient record context with
  | none => exact .throw _
  | some userId =>
      exact .then_give (Host.sendNotification_hasOne _ (h _ rfl)) _

theorem beside_hasOne
    {intended : Effect → Prop} (record : Record) {work : Attempt ActionResult}
    (h : HasOne intended work) :
    HasOne intended (beside record work) :=
  .then_give h _

/-- An action that leaves its record has one effect or none; what is invalid
fails at once. -/
theorem dispatch_hasOne
    {definition : ActionDefinition} (hleaves : definition.LeavesRecord)
    (record : Record) (context : ExecutionContext) :
    HasOne definition.Intends (dispatch definition record context) := by
  cases definition with
  | updateField config => exact absurd rfl (hleaves.1 config)
  | assignOwner config => exact absurd rfl (hleaves.2 config)
  | sendEmail config =>
      exact beside_hasOne record (sendEmail_hasOne config record)
  | createTask config =>
      refine beside_hasOne record
        (createFollowUp_hasOne .task config record context ?_)
      intro followUp hkind
      simp [ActionDefinition.Intends, hkind]
  | createActivity config =>
      refine beside_hasOne record
        (createFollowUp_hasOne .activity config record context ?_)
      intro followUp hkind
      simp [ActionDefinition.Intends, hkind]
  | sendWebhook config =>
      exact beside_hasOne record (sendWebhook_hasOne config record)
  | createRecord config =>
      exact beside_hasOne record (createRecord_hasOne config record)
  | updateRelated config =>
      exact beside_hasOne record (updateRelated_hasOne config record)
  | sendNotification config =>
      exact beside_hasOne record
        (sendNotification_hasOne (channelsOf config) config record context
          fun _ hchannels =>
            .inl ⟨config, rfl, hchannels.trans (channelsOf_eq config)⟩)
  | sendSms config =>
      exact beside_hasOne record
        (sendNotification_hasOne .sms config record context
          fun _ hchannels => .inr ⟨config, rfl, hchannels⟩)
  | invalid kind tag fault raw => exact .throw _

end Execution

/-- The first of the names for an assignee or owner that the record has. -/
def Record.OwnerName (record : Record) (name : String) : Prop :=
  ∃ before behind,
    ["AssignedToUserId", "AssignedTo", "AssigneeId", "Assignee", "assigned_to",
        "OwnerId", "Owner", "owner_id"] =
      before ++ name :: behind ∧
    (∀ other ∈ before, record.hasField other = false) ∧
    record.hasField name = true

/-- What a success of the definition has come to: either one field of the record
has been written, or the one effect beside it is there. -/
def ActionDefinition.Achieves
    (definition : ActionDefinition) (record after : Record)
    (host later : Host) : Prop :=
  match definition with
  | .updateField config =>
    (∃ key value,
      record.WritesOne config.field (Template.resolve config.value record) key
        value after) ∧
      Leads [] host later
  | .assignOwner config =>
    (∃ name key value,
      record.OwnerName name ∧
        record.WritesOne name
          (Text.trim (Template.resolve config.owner record)) key value after) ∧
      Leads [] host later
  | definition =>
    after = record ∧
      ∃ effect, definition.Intends effect ∧ Leads [effect] host later

namespace ActionDefinition.LeavesRecord

variable {definition : ActionDefinition} {record : Record} {host later : Host}

theorem target?_eq_none
    (h : definition.LeavesRecord) (record : Record) :
    definition.target? record = none := by
  cases definition with
  | updateField config => exact absurd rfl (h.1 config)
  | assignOwner config => exact absurd rfl (h.2 config)
  | _ => rfl

theorem achieves_iff (h : definition.LeavesRecord) (after : Record) :
    definition.Achieves record after host later ↔
      after = record ∧
        ∃ effect, definition.Intends effect ∧ Leads [effect] host later := by
  cases definition with
  | updateField config => exact absurd rfl (h.1 config)
  | assignOwner config => exact absurd rfl (h.2 config)
  | _ => exact Iff.rfl

end ActionDefinition.LeavesRecord

namespace Execution

open Attempt (HasOne)
open Host (Fruitless)

def Settles
    (definition : ActionDefinition) (record : Record) (host : Host)
    (ended : Ending (Except WorkflowError (ActionResult × Record)) × Host) :
    Prop :=
  (∃ done later, ended = (.value (.ok done), later) ∧
    done.1.status = .success ∧
    definition.Achieves record done.2 host later) ∨
  ∃ ending later, ended = (ending, later) ∧
    (∀ done, ending ≠ .value (.ok done)) ∧
    Fruitless definition.Intends host later

theorem settles_of_leaves
    {definition : ActionDefinition} (hleaves : definition.LeavesRecord)
    (record : Record) (context : ExecutionContext) (host : Host) :
    Settles definition record host
      ((dispatch definition record context).run host) := by
  rcases dispatch_hasOne hleaves record context host with
    ⟨done, effect, later, hrun, hintended, hleads⟩ |
    ⟨ending, later, hrun, hfailed, hfruitless⟩
  · obtain ⟨hsuccess, hafter⟩ :=
      gives_dispatch definition record context host _ later hrun done rfl
    simp only [hleaves.target?_eq_none] at hafter
    exact .inl ⟨done, later, hrun, hsuccess,
      (hleaves.achieves_iff done.2).mpr ⟨hafter, effect, hintended, hleads⟩⟩
  · exact .inr ⟨ending, later, hrun, hfailed, hfruitless⟩

theorem settles_of_write
    {definition : ActionDefinition} {record : Record}
    {answer : Except WorkflowError (ActionResult × Record)} {host : Host}
    (hsuccess : ∀ done, answer = .ok done →
      done.1.status = .success ∧
        definition.Achieves record done.2 host host) :
    Settles definition record host (.value answer, host) := by
  cases answer with
  | error error =>
      exact .inr
        ⟨.value (.error error), host, rfl, by simp, .inl (.refl host)⟩
  | ok done =>
      obtain ⟨hstatus, hachieves⟩ := hsuccess done rfl
      exact .inl ⟨done, host, rfl, hstatus, hachieves⟩

theorem ownerName_of_find?
    {record : Record} {name : String}
    (h : (ownerFields.find? fun name => record.hasField name) = some name) :
    record.OwnerName name := by
  obtain ⟨hfield, before, behind, hsplit, hbefore⟩ :=
    List.find?_eq_some_iff_append.mp h
  exact ⟨before, behind, hsplit, by simpa using hbefore, hfield⟩

theorem updateField_settles
    (config : UpdateFieldConfig) (record : Record) (host : Host) :
    Settles (.updateField config) record host
      (.value (updateField config record), host) := by
  refine settles_of_write fun done h => ?_
  obtain ⟨hstatus, value, hset⟩ := updateField_eq_ok h
  exact ⟨hstatus, ⟨_, value, Record.writesOne_of_setLiteral hset⟩, .refl host⟩

theorem assignOwner_settles
    (config : AssignOwnerConfig) (record : Record) (host : Host) :
    Settles (.assignOwner config) record host
      (.value (assignOwner config record), host) := by
  refine settles_of_write fun done h => ?_
  obtain ⟨hstatus, name, value, hfind, hset⟩ := assignOwner_eq_ok h
  exact ⟨hstatus,
    ⟨name, _, value, ownerName_of_find? hfind,
      Record.writesOne_of_setLiteral hset⟩,
    .refl host⟩

theorem dispatch_settles
    (definition : ActionDefinition) (record : Record)
    (context : ExecutionContext) (host : Host) :
    Settles definition record host
      ((dispatch definition record context).run host) := by
  cases definition with
  | updateField config => exact updateField_settles config record host
  | assignOwner config => exact assignOwner_settles config record host
  | _ =>
      exact settles_of_leaves (by simp [ActionDefinition.LeavesRecord]) record
        context host

end Execution

/-! ## The end of a delay -/

/-- Does the clock stand between 1970 and the year 255 000, which leaves room
for every delay of 32 bits? -/
def Time.Instant.IsCurrent (now : Time.Instant) : Prop :=
  0 ≤ now.seconds ∧ now.seconds < 8000000000000

theorem Time.Instant.exists_addSeconds
    (now : Time.Instant) {seconds : Int} (hahead : 0 < seconds)
    (hrange : ∀ nanos,
      Time.Instant.inRange ⟨now.seconds + seconds, nanos⟩ = true) :
    ∃ later, now.addSeconds seconds = some later := by
  have hnonzero : seconds ≠ 0 := by omega
  unfold Time.Instant.addSeconds
  by_cases hleap : now.nanos < Time.Instant.nanosPerSecond
  · simp [hleap, hrange]
  · simp [hleap, hnonzero, hahead, hrange]

/-! ## Results -/

theorem append_ne_empty {head : String} (h : head ≠ "") (rest : String) :
    head ++ rest ≠ "" := by
  intro hempty
  exact h (String.append_eq_empty_iff.mp hempty).1

theorem WorkflowError.message_ne_empty (error : WorkflowError) :
    error.message ≠ "" := by
  cases error with
  | configuration message => exact append_ne_empty (by decide) _
  | resolution message => exact append_ne_empty (by decide) _
  | collaborator service message =>
      refine append_ne_empty (fun hempty => ?_) _
      exact absurd (String.append_eq_empty_iff.mp hempty).2 (by decide)
  | database cause => exact append_ne_empty (by decide) _
  | serialization message => exact append_ne_empty (by decide) _
  | cancelled => decide

/-- The result of an action that was run or put off, and what has come of
it. -/
structure Action.ComesToOne
    (action : Action) (record : Record) (context : ExecutionContext)
    (host : Host) (result : ActionResult) (after : Record) (later : Host) :
    Prop where
  effect : match result.status with
    | .pending =>
      action.IsPutOff host ∧ after = record ∧
        ∃ id runAt,
          let delayed := action.deferral record context id host.now runAt
          later.queue.pending = host.queue.pending ++ [delayed] ∧
            Leads [.deferred delayed] host later
    | .success =>
      ¬ action.IsPutOff host ∧
        action.definition.Achieves record after host later
    | .failed =>
      after = record ∧ result.message ≠ "" ∧
        host.Fruitless action.definition.Intends later
    | .skipped => False
  untouched : action.definition.LeavesRecord → after = record
  identity :
    after.id = record.id ∧ after.recordType = record.recordType ∧
      after.schema = record.schema

namespace Action.ComesToOne

variable {action : Action} {record after : Record} {context : ExecutionContext}
  {host later : Host} {result : ActionResult}

theorem of_pending
    {id : Uuid} {runAt : Time.Instant} (hputOff : action.IsPutOff host)
    (hstatus : result.status = .pending)
    (hleads :
      Leads [.deferred (action.deferral record context id host.now runAt)]
        host later) :
    action.ComesToOne record context host result record later where
  effect := by
    rw [hstatus]
    refine ⟨hputOff, rfl, id, runAt, ?_, hleads⟩
    obtain ⟨_, _, _, rfl⟩ := hleads
    simp [Host.withCounters, Host.after, Effect.apply, DelayedQueue.schedule,
      DelayedQueue.pending]
  untouched := fun _ => rfl
  identity := ⟨rfl, rfl, rfl⟩

theorem of_failure
    {message : String} (hmessage : message ≠ "")
    (hfruitless : host.Fruitless action.definition.Intends later) :
    action.ComesToOne record context host (.failure message) record later where
  effect := ⟨rfl, hmessage, hfruitless⟩
  untouched := fun _ => rfl
  identity := ⟨rfl, rfl, rfl⟩

theorem of_success
    (hatOnce : ¬ action.IsPutOff host) (hstatus : result.status = .success)
    (hachieves : action.definition.Achieves record after host later) :
    action.ComesToOne record context host result after later where
  effect := by
    rw [hstatus]
    exact ⟨hatOnce, hachieves⟩
  untouched := fun hleaves => ((hleaves.achieves_iff after).mp hachieves).1
  identity := by
    cases hdefinition : action.definition with
    | updateField config =>
        rw [hdefinition] at hachieves
        obtain ⟨⟨key, value, hone⟩, -⟩ := hachieves
        exact hone.identity
    | assignOwner config =>
        rw [hdefinition] at hachieves
        obtain ⟨⟨name, key, value, -, hone⟩, -⟩ := hachieves
        exact hone.identity
    | _ =>
        rw [hdefinition] at hachieves
        rw [hachieves.1]
        exact ⟨rfl, rfl, rfl⟩

end Action.ComesToOne

namespace Execution

theorem executeNow_comesToOne
    (action : Action) (record : Record) (context : ExecutionContext)
    {host : Host} (hatOnce : ¬ action.IsPutOff host) :
    ∃ result after later,
      executeNow action record context host =
          (.value (result, after), later) ∧
        action.ComesToOne record context host result after later := by
  unfold executeNow
  rcases dispatch_settles action.definition record context host with
    ⟨⟨result, after⟩, later, hrun, hstatus, hachieves⟩ |
    ⟨ending, later, hrun, hfailed, hfruitless⟩
  · refine ⟨result, after, later, ?_,
      .of_success hatOnce hstatus hachieves⟩
    exact Run.bind_of_value (Run.guarded_of_value hrun) _
  · rcases ending with (error | done) | _
    · refine ⟨_, _, later, ?_,
        .of_failure error.message_ne_empty hfruitless⟩
      exact Run.bind_of_value (Run.guarded_of_value hrun) _
    · exact absurd rfl (hfailed done)
    · have hmessage :
          "action '" ++ action.name ++ "' panicked during execution" ≠ "" :=
        append_ne_empty (append_ne_empty (by decide) _) _
      refine ⟨_, _, later, ?_, .of_failure hmessage hfruitless⟩
      exact Run.bind_of_value (Run.guarded_of_panic hrun) _

/-- Nothing can be put off beyond the last instant, or when the queue breaks
off. -/
def CannotPutOff (action : Action) (host : Host) : Prop :=
  host.now.addSeconds (action.delayMinutes * 60) = none ∨
    host.faults .scheduleDelayed (host.calls .scheduleDelayed) = .panic

theorem schedule_comesToOne
    {action : Action} (record : Record) (context : ExecutionContext)
    {host : Host} (hputOff : action.IsPutOff host) :
    (∃ later, schedule action record context host = (.panic, later) ∧
      CannotPutOff action host ∧ Leads [] host later) ∨
    ∃ result later,
      schedule action record context host = (.value result, later) ∧
        action.ComesToOne record context host result record later := by
  unfold schedule Host.clock
  rw [Run.gets_bind]
  cases hrunAt : host.now.addSeconds (action.delayMinutes * 60) with
  | none => exact .inl ⟨host, rfl, .inl hrunAt, .refl host⟩
  | some runAt =>
      -- the identifier is drawn before the call, and is spent if that fails
      let delayed :=
        action.deferral record context host.ids.draw.1 host.now runAt
      let drawn : Host := { host with ids := host.ids.draw.2 }
      have hdrawn : Leads [] host drawn := .of_counters host _ _ _
      obtain ⟨started, hstarted, hcall⟩ :=
        Host.call_run_cases .scheduleDelayed
          (Host.answer <| Run.modify fun host =>
            { host with queue := host.queue.schedule delayed }) drawn
      rcases hcall with hcall | ⟨-, hcall⟩ | ⟨hpanic, hcall⟩
      · have hqueued :
            Leads [.deferred delayed] started
              (Effect.apply started (.deferred delayed)) :=
          .of_effect started _
        exact .inr ⟨_, _, Run.bind_of_value hcall _,
          .of_pending hputOff rfl ((hdrawn.trans hstarted).trans hqueued)⟩
      · refine .inr ⟨_, _, Run.bind_of_value hcall _,
          .of_failure ?_ (.inl (hdrawn.trans hstarted))⟩
        exact append_ne_empty (by decide) _
      · exact .inl ⟨started, Run.bind_of_panic hcall _, .inr hpanic,
          hdrawn.trans hstarted⟩

theorem execute_settled
    (action : Action) (record : Record) (context : ExecutionContext)
    (host : Host) :
    (∃ result after later,
      execute action record context host = (.value (result, after), later) ∧
        action.ComesToOne record context host result after later) ∨
    ∃ later, execute action record context host = (.panic, later) ∧
      action.IsPutOff host ∧ CannotPutOff action host ∧
      Leads [] host later := by
  unfold execute
  rw [Run.gets_bind]
  by_cases hputOff : action.IsPutOff host
  · rw [if_pos (by simp [hputOff.1, hputOff.2])]
    rcases schedule_comesToOne record context hputOff with
      ⟨later, hrun, hcannot, hleads⟩ | ⟨result, later, hrun, hone⟩
    · exact .inr
        ⟨later, Run.bind_of_panic hrun _, hputOff, hcannot, hleads⟩
    · exact .inl ⟨result, record, later, Run.bind_of_value hrun _, hone⟩
  · rw [if_neg (by simpa [Action.IsPutOff] using hputOff)]
    exact .inl (executeNow_comesToOne action record context hputOff)

theorem not_cannotPutOff
    {action : Action} {host : Host} (hcalm : host.faults = .calm)
    (hcurrent : host.now.IsCurrent) (hputOff : action.IsPutOff host)
    (hdelay : Number.isInt32 action.delayMinutes = true) :
    ¬ CannotPutOff action host := by
  obtain ⟨hfrom, hbefore⟩ := hcurrent
  have hpositive := hputOff.2
  have hminutes : action.delayMinutes < 2147483648 := by
    have htwos : Number.twos 31 = 2147483648 := by decide
    simp only [Number.isInt32, htwos, decide_eq_true_eq] at hdelay
    exact hdelay.2
  rintro (hnone | hpanic)
  -- the calendar goes on for 95 million days, and the clock has used up fewer
  -- than 93 million; 32 bits of minutes are 1.5 million more
  · have hfirst : (Time.Date.mk Time.firstYear 1 1).toDays ≤ 0 := by decide
    have hlast : 95000000 ≤ (Time.Date.mk Time.lastYear 12 31).toDays := by
      decide
    obtain ⟨runAt, hrunAt⟩ :=
      Time.Instant.exists_addSeconds host.now
        (show 0 < action.delayMinutes * 60 by omega)
        (by
          intro nanos
          simp only [Time.Instant.inRange, decide_eq_true_eq]
          omega)
    simp [hnone] at hrunAt
  · simp [hcalm, FaultPlan.calm] at hpanic

/-- Hands a ticket over to the one who is named in it. -/
def handOn : Action :=
  .assignOwner (.numbered 1) " \x7b\x7bDeputy\x7d\x7d "

def handOnContext : ExecutionContext := ⟨.numbered 2, .numbered 3, none, none⟩

/-- A ticket with an assignee and an owner, whose note has been written. -/
def absent : Record :=
  ⟨"Ticket", "t-1",
    [("Deputy", .string "Bob"), ("Note", .string "away"),
      ("Owner", .string "Ann"), ("assignee", .string "Ann")],
    none, ["Note"]⟩

def deputised : Record :=
  ⟨"Ticket", "t-1",
    [("Deputy", .string "Bob"), ("Note", .string "away"),
      ("Owner", .string "Ann"), ("assignee", .string "Bob")],
    none, ["Note", "assignee"]⟩

def puttingOff : Host :=
  { Host.ofWorkflows [] ⟨1700000000, 0⟩ with defersActions := true }

def handOnLater : Action := { handOn with delayMinutes := 30 }

theorem execute_handOn :
    (execute handOn absent handOnContext puttingOff).1 =
      .value
        (.success "Assigned to Bob"
          (.object [("field", .string "Assignee"), ("owner", .string "Bob")]),
          deputised) := by
  with_unfolding_all rfl

theorem execute_handOnLater :
    (execute handOnLater absent handOnContext puttingOff).1.map Prod.snd =
        .value absent ∧
      ((execute handOnLater absent handOnContext puttingOff).1.map fun ended =>
          ended.1.status) =
        .value .pending ∧
      (execute handOnLater absent handOnContext
          puttingOff).2.queue.pending.map DelayedAction.runAt =
        [⟨1700001800, 0⟩] :=
  ⟨by with_unfolding_all rfl, by decide +kernel, by decide +kernel⟩

end Execution

end RecordRules
