import RecordRules.Proofs.DelayedRuns

/-!
# What the result of an action depends on

Where no call is disturbed, what an action comes to depends on the record, on
the known users and links, and on how emails and webhooks are answered.  In
surroundings that have these in common it ends with the same status and the same
record, and with a message that differs at most in what it tells of a new
identifier or of the number of updated records.
-/

namespace RecordRules

/-- Texts that tell the same, up to a new identifier, an instant or a number of
updated records. -/
inductive SameText : String → String → Prop
  | refl (text : String) : SameText text text
  | created (recordType : String) (id other : Uuid) :
      SameText ("Created " ++ recordType ++ " " ++ id.text)
        ("Created " ++ recordType ++ " " ++ other.text)
  | updated (recordType : String) (count other : Nat) :
      SameText
        ("Updated " ++ Number.natText count ++ " " ++ recordType ++ " records")
        ("Updated " ++ Number.natText other ++ " " ++ recordType ++ " records")
  | scheduled (runAt other : Time.Instant) :
      SameText ("Scheduled for " ++ runAt.text) ("Scheduled for " ++ other.text)

/-- Results of the same status, whose messages tell the same. -/
inductive ActionResult.Alike : ActionResult → ActionResult → Prop
  | refl (result : ActionResult) : Alike result result
  | success {message other : String} (output otherOutput : Json) :
      SameText message other →
        Alike (.success message output) (.success other otherOutput)
  | pending {message other : String} (output otherOutput : Json) :
      SameText message other →
        Alike (.pending message output) (.pending other otherOutput)

theorem ActionResult.Alike.status_eq
    {result other : ActionResult} (h : Alike result other) :
    other.status = result.status := by
  cases h <;> rfl

/-- Answers that are the same error, or related values. -/
inductive SameAnswer {α β : Type} (same : α → β → Prop) :
    Except WorkflowError α → Except WorkflowError β → Prop
  | ok {a : α} {b : β} : same a b → SameAnswer same (.ok a) (.ok b)
  | error (error : WorkflowError) : SameAnswer same (.error error) (.error error)

namespace Host

/-- What the result of an action depends on, beside the record. -/
structure Standing where
  faults : FaultPlan
  users : List UserContact
  links : LinkRegistry
  emailFailure : Option String
  webhookStatus : Nat

def standing (host : Host) : Standing where
  faults := host.faults
  users := host.users
  links := host.links
  emailFailure := host.outbox.emailFailure
  webhookStatus := host.outbox.webhookStatus

/-- Undisturbed surroundings in which actions come to the same. -/
structure Akin (a b : Host) : Prop where
  calm : a.faults = .calm
  standing : b.standing = a.standing

theorem Leads.standing
    {effects : List Effect} {before later : Host}
    (h : Leads effects before later) : later.standing = before.standing :=
  h.keeps Host.standing (fun _ effect _ => by cases effect <;> rfl)
    (fun _ _ _ _ => rfl)

namespace Akin

variable {a b : Host}

theorem refl (hcalm : a.faults = .calm) : Akin a a := ⟨hcalm, rfl⟩

theorem calmOther (h : Akin a b) : b.faults = .calm :=
  (congrArg Standing.faults h.standing).trans h.calm

theorem users (h : Akin a b) : b.users = a.users :=
  congrArg Standing.users h.standing

theorem links (h : Akin a b) : b.links = a.links :=
  congrArg Standing.links h.standing

theorem emailFailure (h : Akin a b) :
    b.outbox.emailFailure = a.outbox.emailFailure :=
  congrArg Standing.emailFailure h.standing

theorem webhookStatus (h : Akin a b) :
    b.outbox.webhookStatus = a.outbox.webhookStatus :=
  congrArg Standing.webhookStatus h.standing

theorem of_standing
    {a' b' : Host} (h : Akin a b) (ha : a'.standing = a.standing)
    (hb : b'.standing = b.standing) : Akin a' b' :=
  ⟨(congrArg Standing.faults ha).trans h.calm, by rw [hb, h.standing, ha]⟩

end Akin

end Host

/-! ## Attempts in akin surroundings -/

open Host (Akin)

/-- In akin surroundings the attempts end in the same way, with related
values. -/
def Attempt.Alike {α β : Type} (same : α → β → Prop)
    (x : Attempt α) (y : Attempt β) : Prop :=
  Run.Matches Akin (SameAnswer same) x.run y.run

namespace Attempt.Alike

variable {α β γ δ : Type} {same : α → β → Prop} {other : γ → δ → Prop}

theorem pure {a : α} {b : β} (h : same a b) :
    Alike same (pure a : Attempt α) (pure b : Attempt β) :=
  Run.Matches.pure (.ok h)

theorem throw (error : WorkflowError) :
    Alike same (throw error : Attempt α) (throw error : Attempt β) :=
  Run.Matches.pure (.error error)

theorem bind
    {x : Attempt α} {y : Attempt β} {next : α → Attempt γ}
    {nextOther : β → Attempt δ} (hx : Alike same x y)
    (hnext : ∀ a b, same a b → Alike other (next a) (nextOther b)) :
    Alike other (x >>= next) (y >>= nextOther) := by
  unfold Alike
  rw [ExceptT.run_bind, ExceptT.run_bind]
  refine Run.Matches.bind hx fun answer answerOther hanswer => ?_
  cases hanswer with
  | ok h => exact hnext _ _ h
  | error error => exact throw error

theorem lift
    {x : Run Host α} {y : Run Host β} (h : Run.Matches Akin same x y) :
    Alike same (monadLift x : Attempt α) (monadLift y : Attempt β) := by
  have hlift :
      Run.Matches Akin (SameAnswer same) (Except.ok <$> x)
        (Except.ok <$> y) := by
    rw [map_eq_pure_bind, map_eq_pure_bind]
    exact h.bind fun a b hab => .pure (.ok hab)
  exact hlift

theorem answer
    {x : Run Host α} {y : Run Host β} (h : Run.Matches Akin same x y) :
    Alike same (Host.answer x) (Host.answer y) :=
  lift h

theorem update
    {change : Host → Except WorkflowError α × Host}
    {changeOther : Host → Except WorkflowError β × Host}
    (hchange : ∀ a b, Akin a b →
      SameAnswer same (change a).1 (changeOther b).1 ∧
        Akin (change a).2 (changeOther b).2) :
    Alike same (ExceptT.mk (Run.update change))
      (ExceptT.mk (Run.update changeOther)) :=
  Run.Matches.update hchange

/-- Undisturbed calls come to what their workings come to. -/
theorem call
    (method : Method) {work : Attempt α} {workOther : Attempt β}
    (h : Alike same work workOther) :
    Alike same (Host.call method work) (Host.call method workOther) := by
  intro a b hab
  rw [Host.call_run_of_calm hab.calm, Host.call_run_of_calm hab.calmOther]
  exact h _ _ (hab.of_standing rfl rfl)

end Attempt.Alike

/-! ## The calls of actions -/

namespace Host

open Attempt (Alike)

theorem matches_mintId : Run.Matches Akin (fun _ _ => True) mintId mintId :=
  .update fun _ _ hab => ⟨trivial, hab.of_standing rfl rfl⟩

theorem alike_findUser (id : String) : Alike Eq (findUser id) (findUser id) := by
  refine .call .findUser (.answer (.gets fun a b hab => ?_))
  rw [hab.users]

theorem alike_linkField? (recordType : String) :
    Alike Eq (monadLift (linkField? recordType))
      (monadLift (linkField? recordType)) := by
  refine .lift (.gets fun a b hab => ?_)
  rw [hab.links]

theorem alike_createFollowUp (followUp other : FollowUp) :
    Alike (fun _ _ => True) (createFollowUp followUp) (createFollowUp other) :=
  .call .createFollowUp
    (.answer (.update fun _ _ hab => ⟨trivial, hab.of_standing rfl rfl⟩))

theorem alike_createRecord (recordType : String) (fields : Fields) :
    Alike (fun text other => ∃ id otherId : Uuid,
        text = id.text ∧ other = otherId.text)
      (createRecord recordType fields) (createRecord recordType fields) := by
  refine .call .createRecord (.answer (.bind matches_mintId fun id other _ => ?_))
  refine .bind (.modify fun _ _ hab => hab.of_standing rfl rfl) fun _ _ _ => ?_
  exact .pure ⟨id, other, rfl, rfl⟩

theorem alike_updateRelated
    (recordType linkField parentId : String) (fields : Fields) :
    Alike (fun _ _ => True)
      (updateRelated recordType linkField parentId fields)
      (updateRelated recordType linkField parentId fields) :=
  .call .updateRelated
    (.answer (.update fun _ _ hab => ⟨trivial, hab.of_standing rfl rfl⟩))

theorem standing_sendEmail (email : Email) (host : Host) :
    ({ host with outbox := (host.outbox.sendEmail email).2 } : Host).standing =
      host.standing := by
  unfold Outbox.sendEmail
  cases hfailure : host.outbox.emailFailure <;> simp [standing, hfailure]

theorem alike_sendEmail (email : Email) :
    Alike Eq (sendEmail email) (sendEmail email) := by
  refine .call .email (.update fun a b hab => ⟨?_, hab.of_standing
    (standing_sendEmail email a) (standing_sendEmail email b)⟩)
  unfold Outbox.sendEmail
  rw [hab.emailFailure]
  cases a.outbox.emailFailure with
  | none => exact .ok rfl
  | some message => exact .error _

theorem alike_sendNotification (notification : Notification) :
    Alike (fun _ _ => True) (sendNotification notification)
      (sendNotification notification) := by
  refine .call .notification (.answer (.bind (.modify fun _ _ hab =>
    hab.of_standing rfl rfl) fun _ _ _ => ?_))
  exact matches_mintId

theorem alike_deliverWebhook (request : WebhookRequest) :
    Alike Eq (deliverWebhook request) (deliverWebhook request) := by
  refine .call .webhook
    (.update fun a b hab => ⟨?_, hab.of_standing rfl rfl⟩)
  unfold Outbox.deliver
  rw [hab.webhookStatus]
  dsimp only
  split
  · exact .ok rfl
  · exact .error _

end Host

/-! ## Actions -/

namespace Execution

open Attempt (Alike)

theorem alike_resolveEmail (raw : String) (record : Record) :
    Alike Eq (resolveEmail raw record) (resolveEmail raw record) := by
  unfold resolveEmail
  dsimp only
  split
  · exact .throw _
  split
  · exact .pure rfl
  refine .bind (Host.alike_findUser _) fun found other hfound => ?_
  subst hfound
  cases found with
  | none => exact .throw _
  | some user =>
      dsimp only
      cases user.email with
      | none => exact .throw _
      | some email =>
          dsimp only
          split
          · exact .throw _
          · exact .pure rfl

theorem alike_sendEmail (config : SendEmailConfig) (record : Record) :
    Alike ActionResult.Alike (sendEmail config record)
      (sendEmail config record) := by
  refine .bind (alike_resolveEmail _ record) fun address other haddress => ?_
  subst haddress
  refine .bind (Host.alike_sendEmail _) fun _ _ _ => ?_
  exact .pure (.success _ _ (.refl _))

theorem alike_createFollowUp
    (kind : FollowUpKind) (config : FollowUpConfig) (record : Record)
    (context : ExecutionContext) :
    Alike ActionResult.Alike (createFollowUp kind config record context)
      (createFollowUp kind config record context) := by
  refine .bind (Host.alike_linkField? _) fun link other hlink => ?_
  subst hlink
  cases link with
  | none => exact .throw _
  | some linkField =>
      have hclock :
          Run.Matches Akin (fun _ _ => True) Host.clock Host.clock :=
        .gets fun _ _ _ => trivial
      refine .bind (.lift hclock) fun now otherNow _ => ?_
      refine .bind (.lift Host.matches_mintId) fun id otherId _ => ?_
      refine .bind (Host.alike_createFollowUp _ _) fun _ _ _ => ?_
      exact .pure (.success _ _ (.refl _))

theorem alike_sendWebhook (config : SendWebhookConfig) (record : Record) :
    Alike ActionResult.Alike (sendWebhook config record)
      (sendWebhook config record) := by
  unfold sendWebhook
  dsimp only
  split
  · exact .throw _
  · refine .bind (Host.alike_deliverWebhook _) fun delivery other hsame => ?_
    subst hsame
    exact .pure (.success _ _ (.refl _))

theorem alike_createRecord (config : CreateRecordConfig) (record : Record) :
    Alike ActionResult.Alike (createRecord config record)
      (createRecord config record) := by
  refine .bind (Host.alike_createRecord _ _) ?_
  rintro _ _ ⟨id, other, rfl, rfl⟩
  exact .pure (.success _ _ (.created _ id other))

theorem alike_updateRelated (config : UpdateRelatedConfig) (record : Record) :
    Alike ActionResult.Alike (updateRelated config record)
      (updateRelated config record) := by
  refine .bind (Host.alike_linkField? _) fun link other hlink => ?_
  subst hlink
  cases config.linkField.or link with
  | none => exact .throw _
  | some linkField =>
      refine .bind (Host.alike_updateRelated _ _ _ _) fun count other _ => ?_
      exact .pure (.success _ _ (.updated _ count other))

theorem alike_sendNotification
    (channels : ChannelMask) (config : NotificationConfig) (record : Record)
    (context : ExecutionContext) :
    Alike ActionResult.Alike (sendNotification channels config record context)
      (sendNotification channels config record context) := by
  unfold sendNotification
  cases resolveUser config.recipient record context with
  | none => exact .throw _
  | some userId =>
      refine .bind (Host.alike_sendNotification _) fun _ _ _ => ?_
      exact .pure (.success _ _ (.refl _))

/-- Results that tell the same, beside the same record. -/
def SameDone (done other : ActionResult × Record) : Prop :=
  done.1.Alike other.1 ∧ other.2 = done.2

theorem alike_beside
    (record : Record) {work : Attempt ActionResult}
    (h : Alike ActionResult.Alike work work) :
    Alike SameDone (beside record work) (beside record work) :=
  .bind h fun _ _ hresult => .pure ⟨hresult, rfl⟩

/-- A write to the record depends on nothing else. -/
theorem alike_write (answer : Except WorkflowError (ActionResult × Record)) :
    Alike SameDone (ExceptT.mk (Pure.pure answer))
      (ExceptT.mk (Pure.pure answer)) := by
  cases answer with
  | error error => exact .throw error
  | ok done => exact .pure ⟨.refl done.1, rfl⟩

theorem alike_dispatch
    (definition : ActionDefinition) (record : Record)
    (context : ExecutionContext) :
    Alike SameDone (dispatch definition record context)
      (dispatch definition record context) := by
  cases definition with
  | updateField config => exact alike_write _
  | sendEmail config =>
      exact alike_beside record (alike_sendEmail config record)
  | createTask config =>
      exact alike_beside record (alike_createFollowUp .task config record context)
  | createActivity config =>
      exact alike_beside record
        (alike_createFollowUp .activity config record context)
  | assignOwner config => exact alike_write _
  | sendWebhook config =>
      exact alike_beside record (alike_sendWebhook config record)
  | createRecord config =>
      exact alike_beside record (alike_createRecord config record)
  | updateRelated config =>
      exact alike_beside record (alike_updateRelated config record)
  | sendNotification config =>
      exact alike_beside record
        (alike_sendNotification (channelsOf config) config record context)
  | sendSms config =>
      exact alike_beside record
        (alike_sendNotification .sms config record context)
  | invalid kind tag fault raw => exact .throw _

/-- In akin surroundings an action that runs at once comes to the same. -/
theorem matches_executeNow
    (action : Action) (record : Record) (context : ExecutionContext) :
    Run.Matches Akin SameDone (executeNow action record context)
      (executeNow action record context) := by
  refine .bind (alike_dispatch _ record context).guarded ?_
  intro caught other hcaught
  cases hcaught with
  | none => exact .pure ⟨.refl _, rfl⟩
  | some hanswer =>
      cases hanswer with
      | error error => exact .pure ⟨.refl _, rfl⟩
      | ok hdone => exact .pure hdone

end Execution

end RecordRules
