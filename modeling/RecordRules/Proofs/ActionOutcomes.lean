import RecordRules.Engine.Session
import RecordRules.Proofs.Run

/-!
# What actions come to

An action that is run at once always comes to a result.  Only a success of an
update or of an assignment touches the record, and then in exactly one field;
no action of the engine is ever skipped.
-/

namespace RecordRules

/-! ## Attempts and what they succeed with -/

/-- Whenever the attempt succeeds, what it gives has the property. -/
def Attempt.Gives {α : Type} (P : α → Prop) (x : Attempt α) : Prop :=
  Run.Yields (fun outcome => ∀ a, outcome = .ok a → P a) x.run

namespace Attempt.Gives

variable {α β : Type} {P : β → Prop}

theorem pure {b : β} (hb : P b) : Gives P (pure b : Attempt β) := by
  refine Run.Yields.pure ?_
  intro c hc
  obtain rfl : b = c := by simpa using hc
  exact hb

theorem throw (error : WorkflowError) : Gives P (throw error : Attempt β) := by
  refine Run.Yields.pure ?_
  intro c hc
  simp at hc

theorem bind
    {x : Attempt α} {next : α → Attempt β} (hnext : ∀ a, Gives P (next a)) :
    Gives P (x >>= next) := by
  unfold Gives
  rw [ExceptT.run_bind]
  refine Run.Yields.bind fun outcome => ?_
  cases outcome with
  | ok a => exact hnext a
  | error error => exact throw error

theorem bind_of
    {Q : α → Prop} {x : Attempt α} {next : α → Attempt β}
    (hx : Gives Q x) (hnext : ∀ a, Q a → Gives P (next a)) :
    Gives P (x >>= next) := by
  unfold Gives
  rw [ExceptT.run_bind]
  refine Run.Yields.bind_of hx fun outcome houtcome => ?_
  cases outcome with
  | ok a => exact hnext a (houtcome a rfl)
  | error error => exact throw error

end Attempt.Gives

/-! ## Successes -/

namespace Record

theorem setLiteral_eq_ok
    {record after : Record} {name literal : String} {value : Json}
    (h : record.setLiteral name literal = .ok (value, after)) :
    after = record.store (record.writeKey name) value := by
  unfold setLiteral at h
  split at h
  · simp at h
  split at h
  · simp at h
  split at h
  · simp at h
  · rename_i converted _
    obtain ⟨rfl, rfl⟩ :
        converted = value ∧
          record.store (record.writeKey name) converted = after := by
      simpa using h
    rfl

end Record

/-- The key of the field that a success of the action writes, if it writes
one. -/
def ActionDefinition.target? (definition : ActionDefinition) (record : Record) :
    Option String :=
  match definition with
  | .updateField config => some (record.writeKey config.field)
  | .assignOwner _ =>
    (Execution.ownerFields.find? fun name => record.hasField name).map
      record.writeKey
  | _ => none

/-- The key of the field that the action wrote, if it wrote one. -/
def Performed.writtenKey (performed : Performed) : Option String :=
  if performed.result.status = .success then
    performed.action.definition.target? performed.before
  else none

/-- The record after an action is the one before it, with one field stored if
the action wrote one. -/
def Performed.Faithful (performed : Performed) : Prop :=
  match performed.writtenKey with
  | some key => ∃ value, performed.after = performed.before.store key value
  | none => performed.after = performed.before

/-- Actions that were run one after another lead from one record to the
other. -/
inductive Wrote : List Performed → Record → Record → Prop
  | none (record : Record) : Wrote [] record record
  | one (performed : Performed) :
      performed.Faithful → Wrote [performed] performed.before performed.after
  | append {first second : List Performed} {a b c : Record} :
      Wrote first a b → Wrote second b c → Wrote (first ++ second) a c

namespace Execution

/-- What a success of the definition leaves of the record. -/
def SuccessOf (definition : ActionDefinition) (record : Record)
    (done : ActionResult × Record) : Prop :=
  done.1.status = .success ∧
    match definition.target? record with
    | some key => ∃ value, done.2 = record.store key value
    | none => done.2 = record

theorem updateField_eq_ok
    {config : UpdateFieldConfig} {record : Record}
    {done : ActionResult × Record}
    (h : updateField config record = .ok done) :
    done.1.status = .success ∧
      ∃ value,
        record.setLiteral config.field (Template.resolve config.value record) =
          .ok (value, done.2) := by
  unfold updateField at h
  cases hset :
      record.setLiteral config.field (Template.resolve config.value record) with
  | error error => simp [hset, Bind.bind, Except.bind] at h
  | ok stored =>
      obtain rfl := by
        simpa [hset, Bind.bind, Except.bind, Pure.pure, Except.pure] using h
      exact ⟨rfl, stored.1, rfl⟩

theorem assignOwner_eq_ok
    {config : AssignOwnerConfig} {record : Record}
    {done : ActionResult × Record}
    (h : assignOwner config record = .ok done) :
    done.1.status = .success ∧
      ∃ name value,
        (ownerFields.find? fun name => record.hasField name) = some name ∧
          record.setLiteral name (resolveTrimmed config.owner record) =
            .ok (value, done.2) := by
  unfold assignOwner at h
  by_cases hempty : resolveTrimmed config.owner record = ""
  · simp [hempty, Bind.bind, Except.bind, throw, throwThe,
      MonadExceptOf.throw] at h
  cases hfind : ownerFields.find? fun name => record.hasField name with
  | none => simp [hempty, hfind, throw, throwThe, MonadExceptOf.throw] at h
  | some name =>
      cases hset :
          record.setLiteral name (resolveTrimmed config.owner record) with
      | error error =>
          simp [hempty, hfind, hset, Bind.bind, Except.bind] at h
      | ok stored =>
          obtain rfl := by
            simpa [hempty, hfind, hset, Bind.bind, Except.bind, Pure.pure,
              Except.pure] using h
          exact ⟨rfl, name, stored.1, rfl, hset⟩

theorem updateField_success
    {config : UpdateFieldConfig} {record : Record}
    {done : ActionResult × Record}
    (h : updateField config record = .ok done) :
    SuccessOf (.updateField config) record done := by
  obtain ⟨hstatus, value, hset⟩ := updateField_eq_ok h
  exact ⟨hstatus, value, Record.setLiteral_eq_ok hset⟩

theorem assignOwner_success
    {config : AssignOwnerConfig} {record : Record}
    {done : ActionResult × Record}
    (h : assignOwner config record = .ok done) :
    SuccessOf (.assignOwner config) record done := by
  obtain ⟨hstatus, name, value, hfind, hset⟩ := assignOwner_eq_ok h
  refine ⟨hstatus, ?_⟩
  simp only [ActionDefinition.target?, hfind, Option.map_some]
  exact ⟨value, Record.setLiteral_eq_ok hset⟩

/-! ## Effects beside the record -/

def Succeeded (result : ActionResult) : Prop := result.status = .success

open Attempt (Gives)

theorem gives_sendEmail (config : SendEmailConfig) (record : Record) :
    Gives Succeeded (sendEmail config record) :=
  .bind fun _ => .bind fun _ => .pure rfl

theorem gives_createFollowUp
    (kind : FollowUpKind) (config : FollowUpConfig) (record : Record)
    (context : ExecutionContext) :
    Gives Succeeded (createFollowUp kind config record context) := by
  refine .bind fun link => ?_
  cases link with
  | none => exact .throw _
  | some linkField =>
      exact .bind fun _ => .bind fun _ => .bind fun _ => .pure rfl

theorem gives_sendWebhook (config : SendWebhookConfig) (record : Record) :
    Gives Succeeded (sendWebhook config record) := by
  unfold sendWebhook
  dsimp only
  split
  · exact .throw _
  · exact .bind fun _ => .pure rfl

theorem gives_createRecord (config : CreateRecordConfig) (record : Record) :
    Gives Succeeded (createRecord config record) :=
  .bind fun _ => .pure rfl

theorem gives_updateRelated
    (config : UpdateRelatedConfig) (record : Record) :
    Gives Succeeded (updateRelated config record) := by
  refine .bind fun link => ?_
  cases config.linkField.or link with
  | none => exact .throw _
  | some linkField => exact .bind fun _ => .pure rfl

theorem gives_sendNotification
    (channels : ChannelMask) (config : NotificationConfig) (record : Record)
    (context : ExecutionContext) :
    Gives Succeeded (sendNotification channels config record context) := by
  unfold sendNotification
  cases resolveUser config.recipient record context with
  | none => exact .throw _
  | some userId => exact .bind fun _ => .pure rfl

/-- An effect beside the record is a success that leaves the record as it
is. -/
theorem gives_beside
    {definition : ActionDefinition} {record : Record}
    {work : Attempt ActionResult}
    (htarget : definition.target? record = none)
    (hwork : Gives Succeeded work) :
    Gives (SuccessOf definition record) (beside record work) := by
  refine .bind_of hwork fun result hresult => .pure ⟨hresult, ?_⟩
  simp only [htarget]

/-! ## Running an action -/

theorem gives_dispatch
    (definition : ActionDefinition) (record : Record)
    (context : ExecutionContext) :
    Gives (SuccessOf definition record)
      (dispatch definition record context) := by
  cases definition with
  | updateField config =>
      exact Run.Yields.pure fun _ h => updateField_success h
  | sendEmail config => exact gives_beside rfl (gives_sendEmail config record)
  | createTask config =>
      exact gives_beside rfl (gives_createFollowUp .task config record context)
  | createActivity config =>
      exact gives_beside rfl
        (gives_createFollowUp .activity config record context)
  | assignOwner config =>
      exact Run.Yields.pure fun _ h => assignOwner_success h
  | sendWebhook config =>
      exact gives_beside rfl (gives_sendWebhook config record)
  | createRecord config =>
      exact gives_beside rfl (gives_createRecord config record)
  | updateRelated config =>
      exact gives_beside rfl (gives_updateRelated config record)
  | sendNotification config =>
      exact gives_beside rfl
        (gives_sendNotification (channelsOf config) config record context)
  | sendSms config =>
      exact gives_beside rfl
        (gives_sendNotification .sms config record context)
  | invalid kind tag fault raw => exact .throw _

/-- What running an action on a record comes to: it is not skipped, and the
record is as the action wrote it. -/
def ComesTo
    (action : Action) (record : Record) (context : ExecutionContext)
    (done : ActionResult × Record) : Prop :=
  done.1.status ≠ .skipped ∧
    Performed.Faithful ⟨context, action, record, done.1, done.2⟩

/-- A result other than a success is no write, when the record is as it was. -/
theorem ComesTo.of_unwritten
    {action : Action} {record : Record} {context : ExecutionContext}
    {result : ActionResult}
    (hskipped : result.status ≠ .skipped)
    (hsuccess : result.status ≠ .success) :
    ComesTo action record context (result, record) := by
  refine ⟨hskipped, ?_⟩
  simp [Performed.Faithful, Performed.writtenKey, hsuccess]

theorem yields_executeNow
    (action : Action) (record : Record) (context : ExecutionContext) :
    Run.Yields (ComesTo action record context)
      (executeNow action record context) := by
  refine .bind_of (gives_dispatch _ record context).guarded ?_
  intro caught hcaught
  rcases caught with _ | (error | done)
  · exact .pure (.of_unwritten (by simp [ActionResult.failure])
      (by simp [ActionResult.failure]))
  · exact .pure (.of_unwritten (by simp [ActionResult.failure])
      (by simp [ActionResult.failure]))
  · obtain ⟨hsuccess, hafter⟩ := hcaught _ rfl done rfl
    refine .pure ⟨by simp [hsuccess], ?_⟩
    simpa [Performed.Faithful, Performed.writtenKey, hsuccess] using hafter

theorem yields_executeNow_status
    (action : Action) (record : Record) (context : ExecutionContext) :
    Run.Yields
      (fun done => done.1.status = .success ∨ done.1.status = .failed)
      (executeNow action record context) := by
  refine .bind_of (gives_dispatch _ record context).guarded ?_
  intro caught hcaught
  rcases caught with _ | (error | done)
  · exact .pure (.inr rfl)
  · exact .pure (.inr rfl)
  · exact .pure (.inl (hcaught _ rfl done rfl).1)

theorem yields_schedule
    (action : Action) (record : Record) (context : ExecutionContext) :
    Run.Yields
      (fun result => result.status ≠ .skipped ∧ result.status ≠ .success)
      (schedule action record context) := by
  refine .bind fun now => ?_
  cases now.addSeconds (action.delayMinutes * 60) with
  | none => exact .breakOff
  | some runAt =>
      refine .bind fun id => .bind fun outcome => ?_
      cases outcome with
      | ok _ => exact .pure (by simp [ActionResult.pending])
      | error _ => exact .pure (by simp [ActionResult.failure])

theorem yields_execute
    (action : Action) (record : Record) (context : ExecutionContext) :
    Run.Yields (ComesTo action record context)
      (execute action record context) := by
  refine .bind fun defers => ?_
  split
  · exact .bind_of (yields_schedule action record context)
      fun _ hresult => .pure (.of_unwritten hresult.1 hresult.2)
  · exact yields_executeNow action record context

theorem executeNow_ends
    (action : Action) (record : Record) (context : ExecutionContext)
    (host : Host) :
    Run.Ends (executeNow action record context) host := by
  refine .bind (.guarded _ host) fun caught later _ => ?_
  rcases caught with _ | (error | done)
  · exact ⟨_, later, rfl⟩
  · exact ⟨_, later, rfl⟩
  · exact ⟨done, later, rfl⟩

end Execution

end RecordRules
