import RecordRules.Engine.Session
import RecordRules.Proofs.HostEffects

/-!
# What actions leave behind

Every call that automation makes is put together from a look at the
surroundings and at most one effect.  Hence so is the execution of an action,
whose effects never are entries of the log or saved changes, and so is the
writing of an entry.
-/

namespace RecordRules

open Host (Acts Effect Scope)

namespace Host

variable {scope : Scope} {α β : Type}

/-! ## Computations that may end with an error -/

theorem Acts.map
    {x : Run Host α} (h : Acts scope x) (f : α → β) :
    Acts scope (f <$> x) := by
  rw [map_eq_pure_bind]
  exact .bind h fun a => .pure (f a)

theorem Acts.attemptPure (a : α) :
    Acts scope (Pure.pure a : Attempt α).run :=
  .pure (Except.ok a)

theorem Acts.attemptThrow (error : WorkflowError) :
    Acts scope (throw error : Attempt α).run :=
  .pure (Except.error error)

theorem Acts.attemptBind
    {x : Attempt α} {next : α → Attempt β}
    (hx : Acts scope x.run) (hnext : ∀ a, Acts scope (next a).run) :
    Acts scope (x >>= next).run := by
  rw [ExceptT.run_bind]
  refine .bind hx fun outcome => ?_
  cases outcome with
  | ok a => exact hnext a
  | error error => exact .pure (Except.error error)

theorem Acts.attemptLift
    {x : Run Host α} (h : Acts scope x) :
    Acts scope (monadLift x : Attempt α).run :=
  h.map Except.ok

/-- A change that answers by what it sees, and has at most one effect. -/
theorem Acts.update
    {change : Host → α × Host} (view : Host → β)
    (answer : β → α) (effect? : β → Option Effect)
    (hcounters : ∀ host calls patience,
      view (host.withCounters host.ids calls patience) = view host)
    (hworkflows : ∀ host workflows,
      view (host.withWorkflows workflows) = view host)
    (hlog : scope.logs ∨ ∀ host faults logs fails,
      view (host.withLog faults logs fails) = view host)
    (hallowed : ∀ seen effect, effect? seen = some effect →
      scope.leaves effect)
    (hchange : ∀ host, change host =
      (answer (view host),
        match effect? (view host) with
        | some effect => Effect.apply host effect
        | none => host)) :
    Acts scope (Run.update change) := by
  have hsplit :
      Run.update change =
        Run.gets view >>= fun seen =>
          match effect? seen with
          | some effect =>
            Run.modify (fun host => Effect.apply host effect) >>=
              fun _ => Pure.pure (answer seen)
          | none => Pure.pure (answer seen) := by
    funext host
    simp only [Run.gets_bind, Run.update, hchange host]
    cases effect? (view host) <;> rfl
  rw [hsplit]
  refine .bind (.look view hcounters (.inr hworkflows) hlog) fun seen => ?_
  cases heffect : effect? seen with
  | some effect =>
      exact .bind (.leave effect (hallowed seen effect heffect))
        fun _ => .pure (answer seen)
  | none => exact .pure (answer seen)

/-- A call to one working only. -/
theorem Acts.ofCall
    {method : Method} {work : Attempt α} (h : Acts scope work.run)
    (hmethod : method = .appendLog → scope.logs) :
    Acts scope (Host.call method work).run :=
  .call method hmethod h h

theorem Acts.clock : Acts scope Host.clock :=
  .look Host.now (fun _ _ _ => rfl) (.inr fun _ _ => rfl)
    (.inr fun _ _ _ _ => rfl)

theorem Acts.linkField? (recordType : String) :
    Acts scope (Host.linkField? recordType) :=
  .look _ (fun _ _ _ => rfl) (.inr fun _ _ => rfl) (.inr fun _ _ _ _ => rfl)

/-! ## The calls of automation -/

theorem acts_loadWorkflows (recordType : String) (trigger : TriggerType) :
    Acts .loading (loadWorkflows recordType trigger).run :=
  .call .loadWorkflows (by simp)
    (.map (.look _ (fun _ _ _ => rfl) (.inl trivial)
      (.inr fun _ _ _ _ => rfl)) Except.ok)
    (.map (.look _ (fun _ _ _ => rfl) (.inl trivial)
      (.inr fun _ _ _ _ => rfl)) Except.ok)

theorem acts_loadAction (id : Uuid) : Acts .loading (loadAction id).run :=
  .ofCall
    (.map (.look _ (fun _ _ _ => rfl) (.inl trivial)
      (.inr fun _ _ _ _ => rfl)) Except.ok)
    (by simp)

theorem acts_findUser (id : String) : Acts scope (findUser id).run :=
  .ofCall
    (.map (.look _ (fun _ _ _ => rfl) (.inr fun _ _ => rfl)
      (.inr fun _ _ _ _ => rfl)) Except.ok)
    (by simp)

theorem acts_appendLog (entry : LogEntry) :
    Acts .ofLog (appendLog entry).run := by
  refine .ofCall (.update
    (fun host => host.store.logWritesFail)
    (fun fails =>
      if fails then
        .error (.collaborator "execution log" "log store unavailable")
      else .ok ())
    (fun fails => if fails then none else some (.logged entry))
    (fun _ _ _ => rfl) (fun _ _ => rfl) (.inl trivial) ?_ ?_)
    fun _ => trivial
  · intro fails effect heffect
    cases fails with
    | true => simp at heffect
    | false =>
        obtain rfl : Effect.logged entry = effect := by simpa using heffect
        trivial
  · intro host
    cases hfails : host.store.logWritesFail <;> rfl

theorem acts_saveRecordChanges
    (recordType recordId : String) (changes : Fields)
    (hallowed : scope.leaves (.saved recordType recordId changes)) :
    Acts scope (saveRecordChanges recordType recordId changes).run :=
  .ofCall (.map (.leave (.saved recordType recordId changes) hallowed) _)
    (by simp)

theorem acts_createFollowUp (followUp : FollowUp) :
    Acts .atOnce (createFollowUp followUp).run := by
  refine .ofCall (.map (.update (fun _ => ()) (fun _ => followUp.id)
    (fun _ => some (.followedUp followUp)) (fun _ _ _ => rfl)
    (fun _ _ => rfl) (.inr fun _ _ _ _ => rfl) ?_ (fun _ => rfl)) _)
    (by simp)
  intro _ effect heffect
  obtain rfl : Effect.followedUp followUp = effect := by
    simpa using heffect
  trivial

theorem acts_createRecord (recordType : String) (fields : Fields) :
    Acts .atOnce (createRecord recordType fields).run := by
  refine .ofCall (.map (.bind .mintId fun id => ?_) _) (by simp)
  exact .bind
    (.leave (.created (Record.ofFields recordType id.text fields)) trivial)
    fun _ => .pure id.text

theorem acts_updateRelated
    (recordType linkField parentId : String) (fields : Fields) :
    Acts .atOnce
      (updateRelated recordType linkField parentId fields).run := by
  refine .ofCall (.map (.update
    (fun host => host.records.countRelated recordType linkField parentId)
    (fun count => count)
    (fun _ => some (.related recordType linkField parentId fields))
    (fun _ _ _ => rfl) (fun _ _ => rfl) (.inr fun _ _ _ _ => rfl) ?_
    (fun _ => rfl)) _) (by simp)
  intro _ effect heffect
  obtain rfl :
      Effect.related recordType linkField parentId fields = effect := by
    simpa using heffect
  trivial

theorem acts_sendEmail (email : Email) :
    Acts .atOnce (sendEmail email).run := by
  refine .ofCall ?_ (by simp)
  rw [ExceptT.run_mk]
  refine .update (fun host => host.outbox)
    (fun outbox => (outbox.sendEmail email).1)
    (fun outbox =>
      if outbox.emailFailure.isSome then none else some (.emailed email))
    (fun _ _ _ => rfl) (fun _ _ => rfl) (.inr fun _ _ _ _ => rfl) ?_ ?_
  · intro outbox effect heffect
    obtain ⟨-, rfl⟩ :
        outbox.emailFailure = none ∧ Effect.emailed email = effect := by
      simpa using heffect
    trivial
  · intro host
    cases hfailure : host.outbox.emailFailure <;>
      simp [Outbox.sendEmail, hfailure, Effect.apply]

theorem acts_sendNotification (notification : Notification) :
    Acts .atOnce (sendNotification notification).run :=
  .ofCall (.map
    (.bind (.leave (.notified notification) trivial) fun _ => .mintId) _)
    (by simp)

theorem acts_deliverWebhook (request : WebhookRequest) :
    Acts .atOnce (deliverWebhook request).run := by
  refine .ofCall (.update (fun host => host.outbox)
    (fun outbox => (outbox.deliver request).1)
    (fun _ => some (.requested request)) (fun _ _ _ => rfl)
    (fun _ _ => rfl) (.inr fun _ _ _ _ => rfl) ?_ (fun _ => rfl))
    (by simp)
  intro _ effect heffect
  obtain rfl : Effect.requested request = effect := by simpa using heffect
  trivial

theorem acts_scheduleDelayed (delayed : DelayedAction) :
    Acts .ofAction (scheduleDelayed delayed).run :=
  .ofCall (.map (.leave (.deferred delayed) trivial) _) (by simp)

end Host

/-! ## Actions -/

namespace Execution

open Host

theorem acts_resolveEmail
    {scope : Scope} (raw : String) (record : Record) :
    Acts scope (resolveEmail raw record).run := by
  unfold resolveEmail
  dsimp only
  split
  · exact .attemptThrow _
  split
  · exact .attemptPure _
  refine .attemptBind (acts_findUser _) fun found => ?_
  cases found with
  | none => exact .attemptThrow _
  | some user =>
      dsimp only
      cases user.email with
      | none => exact .attemptThrow _
      | some email =>
          dsimp only
          split
          · exact .attemptThrow _
          · exact .attemptPure _

theorem acts_sendEmail (config : SendEmailConfig) (record : Record) :
    Acts .atOnce (sendEmail config record).run :=
  .attemptBind (acts_resolveEmail _ record) fun _ =>
    .attemptBind (Host.acts_sendEmail _) fun _ => .attemptPure _

theorem acts_createFollowUp
    (kind : FollowUpKind) (config : FollowUpConfig) (record : Record)
    (context : ExecutionContext) :
    Acts .atOnce (createFollowUp kind config record context).run := by
  refine .attemptBind (.attemptLift (.linkField? _)) fun link => ?_
  cases link with
  | none => exact .attemptThrow _
  | some linkField =>
      refine .attemptBind (.attemptLift .clock) fun now => ?_
      refine .attemptBind (.attemptLift .mintId) fun id => ?_
      exact .attemptBind (Host.acts_createFollowUp _) fun _ =>
        .attemptPure _

theorem acts_sendWebhook (config : SendWebhookConfig) (record : Record) :
    Acts .atOnce (sendWebhook config record).run := by
  unfold sendWebhook
  dsimp only
  split
  · exact .attemptThrow _
  · exact .attemptBind (Host.acts_deliverWebhook _) fun _ =>
      .attemptPure _

theorem acts_createRecord (config : CreateRecordConfig) (record : Record) :
    Acts .atOnce (createRecord config record).run :=
  .attemptBind (Host.acts_createRecord _ _) fun _ => .attemptPure _

theorem acts_updateRelated (config : UpdateRelatedConfig) (record : Record) :
    Acts .atOnce (updateRelated config record).run := by
  refine .attemptBind (.attemptLift (.linkField? _)) fun link => ?_
  cases config.linkField.or link with
  | none => exact .attemptThrow _
  | some linkField =>
      exact .attemptBind (Host.acts_updateRelated _ _ _ _) fun _ =>
        .attemptPure _

theorem acts_sendNotification
    (channels : ChannelMask) (config : NotificationConfig) (record : Record)
    (context : ExecutionContext) :
    Acts .atOnce
      (sendNotification channels config record context).run := by
  unfold sendNotification
  cases resolveUser config.recipient record context with
  | none => exact .attemptThrow _
  | some userId =>
      exact .attemptBind (Host.acts_sendNotification _) fun _ =>
        .attemptPure _

theorem acts_beside
    (record : Record) {work : Attempt ActionResult}
    (h : Acts .atOnce work.run) :
    Acts .atOnce (beside record work).run :=
  .attemptBind h fun _ => .attemptPure _

theorem acts_dispatch
    (definition : ActionDefinition) (record : Record)
    (context : ExecutionContext) :
    Acts .atOnce (dispatch definition record context).run := by
  cases definition with
  | updateField config => exact .pure _
  | sendEmail config => exact acts_beside record (acts_sendEmail config record)
  | createTask config =>
      exact acts_beside record
        (acts_createFollowUp .task config record context)
  | createActivity config =>
      exact acts_beside record
        (acts_createFollowUp .activity config record context)
  | assignOwner config => exact .pure _
  | sendWebhook config =>
      exact acts_beside record (acts_sendWebhook config record)
  | createRecord config =>
      exact acts_beside record (acts_createRecord config record)
  | updateRelated config =>
      exact acts_beside record (acts_updateRelated config record)
  | sendNotification config =>
      exact acts_beside record
        (acts_sendNotification (channelsOf config) config record context)
  | sendSms config =>
      exact acts_beside record
        (acts_sendNotification .sms config record context)
  | invalid kind tag fault raw => exact .attemptThrow _

theorem acts_executeNow
    (action : Action) (record : Record) (context : ExecutionContext) :
    Acts .atOnce (executeNow action record context) := by
  refine .bind (.guarded (acts_dispatch _ record context)) fun outcome => ?_
  rcases outcome with _ | _ | _
  · exact .pure _
  · exact .pure _
  · exact .pure _

theorem acts_schedule
    (action : Action) (record : Record) (context : ExecutionContext) :
    Acts .ofAction (schedule action record context) := by
  refine .bind .clock fun now => ?_
  cases now.addSeconds (action.delayMinutes * 60) with
  | none => exact .breakOff
  | some runAt =>
      refine .bind .mintId fun id => ?_
      refine .bind (acts_scheduleDelayed _) fun outcome => ?_
      cases outcome with
      | ok _ => exact .pure _
      | error _ => exact .pure _

/-- Whatever an action does, it leaves effects of actions only. -/
theorem acts_execute
    (action : Action) (record : Record) (context : ExecutionContext) :
    Acts .ofAction (execute action record context) := by
  refine .bind (.look _ (fun _ _ _ => rfl) (.inr fun _ _ => rfl)
    (.inr fun _ _ _ _ => rfl)) fun defers => ?_
  split
  · exact .bind (acts_schedule action record context) fun _ => .pure _
  · exact (acts_executeNow action record context).mono
      (fun _ => Effect.AtOnce.ofAction) id id

end Execution

/-! ## Entries of the log and saved changes -/

theorem acts_newEntry
    (workflowId : Uuid) (recordType recordId : String) (status : Status) :
    Acts .quiet (newEntry workflowId recordType recordId status) :=
  .bind .mintId fun _ => .bind .clock fun _ => .pure _

/-- Writing to the log leaves entries of the log only. -/
theorem acts_writeLog (entry : LogEntry) :
    Acts .ofLog (writeLog entry) :=
  .bind (Host.acts_appendLog entry) fun _ => .pure ()

/-- Saving leaves saved changes only. -/
theorem acts_saveWrites (record : Record) :
    Acts .ofSave (saveWrites record) := by
  unfold saveWrites
  split
  · exact .bind (Host.acts_saveRecordChanges _ _ _ trivial) fun _ => .pure _
  · exact .pure none

end RecordRules
