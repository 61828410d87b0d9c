import RecordRules.Host.Basic
import RecordRules.Proofs.Run

/-!
# What calls leave behind

A computation on the surroundings is put together from calls.  Each call may
leave effects, one after another; besides them only the supply of identifiers,
the count of calls and the patience of the token change.  Nothing but the token
itself looks at that patience, nothing but the fault plan at the count of calls,
only what loads workflows looks at those of the store, and only what writes to
the log looks at the log.
-/

namespace RecordRules

namespace Host

/-- A lasting effect on the surroundings. -/
inductive Effect where
  | logged (entry : LogEntry)
  | followedUp (followUp : FollowUp)
  | saved (recordType recordId : String) (changes : Fields)
  | created (record : Record)
  | related (recordType linkField parentId : String) (fields : Fields)
  | emailed (email : Email)
  | notified (notification : Notification)
  | requested (request : WebhookRequest)
  | deferred (delayed : DelayedAction)

namespace Effect

def apply (host : Host) : Effect → Host
  | .logged entry => { host with store := host.store.appendLog entry }
  | .followedUp followUp =>
    { host with store := host.store.addFollowUp followUp }
  | .saved recordType recordId changes =>
    { host with store := host.store.saveChanges recordType recordId changes }
  | .created record => { host with records := host.records.insert record }
  | .related recordType linkField parentId fields =>
    { host with
      records :=
        host.records.updateRelated recordType linkField parentId fields }
  | .emailed email =>
    { host with
      outbox := { host.outbox with emails := host.outbox.emails ++ [email] } }
  | .notified notification =>
    { host with outbox := host.outbox.sendNotification notification }
  | .requested request =>
    { host with
      outbox :=
        { host.outbox with webhooks := host.outbox.webhooks ++ [request] } }
  | .deferred delayed => { host with queue := host.queue.schedule delayed }

/-- Is it an effect of an action, rather than of the engine's bookkeeping? -/
def OfAction : Effect → Prop
  | .logged _ => False
  | .saved _ _ _ => False
  | _ => True

/-- Is it an effect that an action has at once? -/
def AtOnce : Effect → Prop
  | .deferred _ => False
  | effect => effect.OfAction

def OfLog : Effect → Prop
  | .logged _ => True
  | _ => False

/-- Are changes of a record saved? -/
def OfSave : Effect → Prop
  | .saved _ _ _ => True
  | _ => False

def entry? : Effect → Option LogEntry
  | .logged entry => some entry
  | _ => none

theorem AtOnce.ofAction {effect : Effect} (h : effect.AtOnce) :
    effect.OfAction := by
  cases effect <;> first | exact h | exact h.elim

theorem OfAction.not_ofSave {effect : Effect} (h : effect.OfAction) :
    ¬ effect.OfSave := by
  cases effect <;> simp_all [OfAction, OfSave]

theorem OfAction.not_ofLog {effect : Effect} (h : effect.OfAction) :
    ¬ effect.OfLog := by
  cases effect <;> simp_all [OfAction, OfLog]

theorem OfSave.not_ofLog {effect : Effect} (h : effect.OfSave) :
    ¬ effect.OfLog := by
  cases effect <;> simp_all [OfSave, OfLog]

theorem entries_eq_nil
    {effects : List Effect} (h : ∀ effect ∈ effects, ¬ effect.OfLog) :
    effects.filterMap entry? = [] := by
  refine List.filterMap_eq_nil_iff.mpr fun effect hmem => ?_
  have hnotLog := h effect hmem
  cases effect with
  | logged entry => exact (hnotLog trivial).elim
  | _ => rfl

end Effect

def after (host : Host) (effects : List Effect) : Host :=
  effects.foldl Effect.apply host

/-- The surroundings with another supply of identifiers, count of calls and
patience. -/
def withCounters
    (host : Host) (ids : IdSupply) (calls : Method → Nat)
    (patience : Option Nat) : Host :=
  { host with ids, calls, patience }

def withPatience (host : Host) (patience : Option Nat) : Host :=
  { host with patience }

def withWorkflows (host : Host) (workflows : List Workflow) : Host :=
  { host with store := { host.store with workflows } }

/-- The surroundings with another log, which may fail in other ways. -/
def withLog
    (host : Host) (faults : FaultPlan) (logs : List LogEntry) (fails : Bool) :
    Host :=
  { host with
    faults, store := { host.store with logs, logWritesFail := fails } }

@[simp] theorem withPatience_self (host : Host) :
    host.withPatience host.patience = host := rfl

/-- The effects lead from the first surroundings to the second. -/
def Leads (effects : List Effect) (before later : Host) : Prop :=
  ∃ ids calls patience,
    later = (before.after effects).withCounters ids calls patience

/-! ## Chains of effects -/

theorem after_append (host : Host) (first second : List Effect) :
    host.after (first ++ second) = (host.after first).after second :=
  List.foldl_append

theorem after_withCounters
    (host : Host) (effects : List Effect) (ids : IdSupply)
    (calls : Method → Nat) (patience : Option Nat) :
    (host.withCounters ids calls patience).after effects =
      (host.after effects).withCounters ids calls patience := by
  induction effects generalizing host with
  | nil => rfl
  | cons effect rest ih =>
      have hhead :
          Effect.apply (host.withCounters ids calls patience) effect =
            (Effect.apply host effect).withCounters ids calls patience := by
        cases effect <;> rfl
      change
        (Effect.apply (host.withCounters ids calls patience) effect).after
            rest = _
      rw [hhead, ih]
      rfl

theorem Leads.refl (host : Host) : Leads [] host host :=
  ⟨host.ids, host.calls, host.patience, rfl⟩

theorem Leads.trans
    {first second : List Effect} {a b c : Host}
    (hfirst : Leads first a b) (hsecond : Leads second b c) :
    Leads (first ++ second) a c := by
  obtain ⟨_, _, _, rfl⟩ := hfirst
  obtain ⟨ids, calls, patience, rfl⟩ := hsecond
  refine ⟨ids, calls, patience, ?_⟩
  rw [after_withCounters, after_append]
  rfl

theorem Leads.of_counters
    (host : Host) (ids : IdSupply) (calls : Method → Nat)
    (patience : Option Nat) :
    Leads [] host (host.withCounters ids calls patience) :=
  ⟨ids, calls, patience, rfl⟩

theorem Leads.withPatience
    {effects : List Effect} {before later : Host}
    (h : Leads effects before later) (patience : Option Nat) :
    Leads effects before (later.withPatience patience) := by
  obtain ⟨ids, calls, _, rfl⟩ := h
  exact ⟨ids, calls, patience, rfl⟩

theorem Leads.of_effect (host : Host) (effect : Effect) :
    Leads [effect] host (effect.apply host) :=
  ⟨_, _, _, rfl⟩

section Unchanged

variable {effects : List Effect} {before later : Host}

/-- What every single effect keeps, chains of effects keep. -/
theorem Leads.keeps
    (view : Host → α)
    (heffect : ∀ host effect, effect ∈ effects →
      view (Effect.apply host effect) = view host)
    (hcounters : ∀ host ids calls patience,
      view (withCounters host ids calls patience) = view host)
    (h : Leads effects before later) :
    view later = view before := by
  obtain ⟨_, _, _, rfl⟩ := h
  rw [hcounters]
  induction effects generalizing before with
  | nil => rfl
  | cons effect rest ih =>
      calc
        view (before.after (effect :: rest)) =
            view ((Effect.apply before effect).after rest) := rfl
        _ = view (Effect.apply before effect) :=
            ih fun host other hother =>
              heffect host other (List.mem_cons_of_mem effect hother)
        _ = view before := heffect before effect List.mem_cons_self

theorem Leads.faults (h : Leads effects before later) :
    later.faults = before.faults :=
  h.keeps Host.faults
    (fun _ effect _ => by cases effect <;> rfl) (fun _ _ _ _ => rfl)

theorem Leads.now (h : Leads effects before later) :
    later.now = before.now :=
  h.keeps Host.now
    (fun _ effect _ => by cases effect <;> rfl) (fun _ _ _ _ => rfl)

theorem Leads.logWritesFail (h : Leads effects before later) :
    later.store.logWritesFail = before.store.logWritesFail :=
  h.keeps (fun host => host.store.logWritesFail)
    (fun _ effect _ => by cases effect <;> rfl) (fun _ _ _ _ => rfl)

theorem Leads.workflows (h : Leads effects before later) :
    later.store.workflows = before.store.workflows :=
  h.keeps (fun host => host.store.workflows)
    (fun _ effect _ => by cases effect <;> rfl) (fun _ _ _ _ => rfl)

theorem Leads.defersActions (h : Leads effects before later) :
    later.defersActions = before.defersActions :=
  h.keeps Host.defersActions
    (fun _ effect _ => by cases effect <;> rfl) (fun _ _ _ _ => rfl)

theorem Leads.logs (h : Leads effects before later) :
    later.store.logs =
      before.store.logs ++ effects.filterMap Effect.entry? := by
  obtain ⟨ids, calls, patience, rfl⟩ := h
  change (before.after effects).store.logs = _
  induction effects generalizing before with
  | nil => simp [after]
  | cons effect rest ih =>
      have hhead :
          (Effect.apply before effect).store.logs =
            before.store.logs ++ effect.entry?.toList := by
        cases effect <;> simp [Effect.apply, Effect.entry?] <;> rfl
      change ((Effect.apply before effect).after rest).store.logs = _
      rw [ih, hhead]
      cases hentry : effect.entry? <;> simp [hentry]

theorem Leads.logs_of_not_ofLog
    (h : Leads effects before later)
    (hunlogged : ∀ effect ∈ effects, ¬ effect.OfLog) :
    later.store.logs = before.store.logs := by
  rw [h.logs, Effect.entries_eq_nil hunlogged, List.append_nil]

theorem Leads.saved_of_not_ofSave
    (h : Leads effects before later)
    (hunsaved : ∀ effect ∈ effects, ¬ effect.OfSave) :
    later.store.saved = before.store.saved := by
  refine h.keeps (fun host => host.store.saved) ?_
    (fun _ _ _ _ => rfl)
  intro host effect hmem
  have hnone := hunsaved effect hmem
  cases effect with
  | saved _ _ _ => exact (hnone trivial).elim
  | _ => rfl

theorem Leads.saved_eq
    {recordType recordId : String} {changes : Fields}
    (h : Leads [.saved recordType recordId changes] before later) :
    later.store.saved =
      (before.store.saveChanges recordType recordId changes).saved := by
  obtain ⟨_, _, _, rfl⟩ := h
  rfl

end Unchanged

/-! ## Computations put together from calls -/

/-- The surroundings with one more call of a method counted. -/
def counted (host : Host) (method : Method) : Host :=
  { host with
    calls := fun other =>
      if other = method then host.calls other + 1 else host.calls other }

theorem callEither_run_apply
    (method : Method) (usual unfiltered : Attempt α) (host : Host) :
    (callEither method usual unfiltered).run host =
      match host.faults method (host.calls method) with
      | .none => usual.run (host.counted method)
      | .error => (.value (.error (injected method)), host.counted method)
      | .panic => (.panic, host.counted method)
      | .cancel => usual.run ((host.counted method).withPatience (some 0))
      | .unfiltered => unfiltered.run (host.counted method) := by
  change
    (consult method >>= fun disturbance => _) host = _
  unfold consult
  rw [Run.update_bind]
  cases host.faults method (host.calls method) <;> rfl

/-- A call is answered by its working, or fails or breaks off because it is
disturbed. -/
theorem call_run_cases
    (method : Method) (work : Attempt α) (host : Host) :
    ∃ started, Leads [] host started ∧
      ((call method work).run host = work.run started ∨
        (host.faults method (host.calls method) = .error ∧
          (call method work).run host =
            (.value (.error (injected method)), started)) ∨
        (host.faults method (host.calls method) = .panic ∧
          (call method work).run host = (.panic, started))) := by
  have hcounted : Leads [] host (host.counted method) :=
    .of_counters host _ _ _
  have hcancelled :
      Leads [] host ((host.counted method).withPatience (some 0)) :=
    .of_counters host _ _ _
  unfold call
  rw [callEither_run_apply]
  cases hfault : host.faults method (host.calls method) with
  | none => exact ⟨_, hcounted, .inl rfl⟩
  | error => exact ⟨_, hcounted, .inr (.inl ⟨rfl, rfl⟩)⟩
  | panic => exact ⟨_, hcounted, .inr (.inr ⟨rfl, rfl⟩)⟩
  | cancel => exact ⟨_, hcancelled, .inl rfl⟩
  | unfiltered => exact ⟨_, hcounted, .inl rfl⟩

/-- What a computation may do. -/
structure Scope where
  /-- The effects that it may leave. -/
  leaves : Effect → Prop
  /-- May it look at the workflows of the store? -/
  loads : Prop
  /-- May it look at the log, and make calls to it? -/
  logs : Prop

namespace Scope

/-- What an action may do, now or later. -/
def ofAction : Scope := ⟨Effect.OfAction, False, False⟩

/-- What an action may do at once. -/
def atOnce : Scope := ⟨Effect.AtOnce, False, False⟩

def ofLog : Scope := ⟨Effect.OfLog, False, True⟩

def ofSave : Scope := ⟨Effect.OfSave, False, False⟩

/-- Only to draw identifiers and to look at what is no store. -/
def quiet : Scope := ⟨fun _ => False, False, False⟩

/-- Only to look, but not at the log. -/
def loading : Scope := ⟨fun _ => False, True, False⟩

end Scope

/-- The computation is put together from calls, and does what is in its
scope. -/
inductive Acts (scope : Scope) : {α : Type} → Run Host α → Prop
  | pure {α : Type} (a : α) : Acts scope (pure a : Run Host α)
  | bind {α β : Type} {x : Run Host α} {next : α → Run Host β} :
      Acts scope x → (∀ a, Acts scope (next a)) → Acts scope (x >>= next)
  | guarded {α : Type} {x : Run Host α} :
      Acts scope x → Acts scope x.guarded
  | breakOff {α : Type} : Acts scope (Run.breakOff : Run Host α)
  | look {α : Type} (view : Host → α)
      (hcounters : ∀ host calls patience,
        view (host.withCounters host.ids calls patience) = view host)
      (hworkflows : scope.loads ∨
        ∀ host workflows, view (host.withWorkflows workflows) = view host)
      (hlog : scope.logs ∨
        ∀ host faults logs fails,
          view (host.withLog faults logs fails) = view host) :
      Acts scope (Run.gets view)
  | mintId : Acts scope mintId
  | call {α : Type} (method : Method) {usual unfiltered : Attempt α}
      (hmethod : method = .appendLog → scope.logs) :
      Acts scope usual.run → Acts scope unfiltered.run →
        Acts scope (callEither method usual unfiltered).run
  | leave (effect : Effect) (heffect : scope.leaves effect) :
      Acts scope (Run.modify effect.apply)

variable {scope : Scope} {α : Type}

theorem Acts.mono
    {wider : Scope} {x : Run Host α} (h : Acts scope x)
    (hleaves : ∀ effect, scope.leaves effect → wider.leaves effect)
    (hloads : scope.loads → wider.loads) (hlogs : scope.logs → wider.logs) :
    Acts wider x := by
  induction h with
  | pure a => exact .pure a
  | bind _ _ ihx ihnext => exact .bind ihx ihnext
  | guarded _ ih => exact .guarded ih
  | breakOff => exact .breakOff
  | look view hcounters hworkflows hlog =>
      exact .look view hcounters (hworkflows.imp_left hloads)
        (hlog.imp_left hlogs)
  | mintId => exact .mintId
  | call method hmethod _ _ ihusual ihunfiltered =>
      exact .call method (fun h => hlogs (hmethod h)) ihusual ihunfiltered
  | leave effect heffect => exact .leave effect (hleaves effect heffect)

theorem Acts.leads
    {x : Run Host α} (h : Acts scope x) (host : Host) :
    ∃ effects,
      (∀ effect ∈ effects, scope.leaves effect) ∧
        Leads effects host (x host).2 := by
  induction h generalizing host with
  | pure a => exact ⟨[], by simp, .refl host⟩
  | @bind _ _ x next hx hnext ihx ihnext =>
      obtain ⟨first, hfirst, hlead⟩ := ihx host
      rcases hs : x host with ⟨_ | _, middle⟩
      · rename_i a
        rw [hs] at hlead
        obtain ⟨second, hsecond, hleadSecond⟩ := ihnext a middle
        rw [Run.bind_of_value hs]
        refine ⟨first ++ second, ?_, hlead.trans hleadSecond⟩
        intro effect hmem
        rcases List.mem_append.mp hmem with hmem | hmem
        · exact hfirst effect hmem
        · exact hsecond effect hmem
      · rw [hs] at hlead
        rw [Run.bind_of_panic hs]
        exact ⟨first, hfirst, hlead⟩
  | @guarded _ x hx ih =>
      rw [Run.guarded_state]
      exact ih host
  | breakOff => exact ⟨[], by simp, .refl host⟩
  | look view _ _ _ => exact ⟨[], by simp, .refl host⟩
  | mintId => exact ⟨[], by simp, .of_counters host _ _ _⟩
  | call method _ husual hunfiltered ihusual ihunfiltered =>
      have hcounted : Leads [] host (host.counted method) :=
        .of_counters host _ _ _
      rw [callEither_run_apply]
      cases host.faults method (host.calls method) with
      | none =>
          obtain ⟨effects, hallowed, hlead⟩ := ihusual (host.counted method)
          exact ⟨effects, hallowed, hcounted.trans hlead⟩
      | error => exact ⟨[], by simp, hcounted⟩
      | panic => exact ⟨[], by simp, hcounted⟩
      | cancel =>
          obtain ⟨effects, hallowed, hlead⟩ :=
            ihusual ((host.counted method).withPatience (some 0))
          have hcancelled :
              Leads [] host
                ((host.counted method).withPatience (some 0)) :=
            .of_counters host _ _ _
          exact ⟨effects, hallowed, hcancelled.trans hlead⟩
      | unfiltered =>
          obtain ⟨effects, hallowed, hlead⟩ :=
            ihunfiltered (host.counted method)
          exact ⟨effects, hallowed, hcounted.trans hlead⟩
  | leave effect heffect =>
      exact ⟨[effect], by simpa using heffect, .of_effect host effect⟩

/-- Surroundings are related that no computation of a scope tells apart: what
is hidden from it may differ, and whatever is done to both keeps them related. -/
structure Unseen (scope : Scope) (alike : Host → Host → Prop) : Prop where
  hidden : ∀ {a b}, alike a b →
    ∃ calls patience workflows faults logs fails,
      b = ((a.withCounters a.ids calls patience).withWorkflows
          workflows).withLog faults logs fails ∧
        (scope.loads → workflows = a.store.workflows) ∧
        (scope.logs → faults = a.faults ∧ logs = a.store.logs ∧
          fails = a.store.logWritesFail)
  disturbed : ∀ {a b}, alike a b → ∀ method,
    (method = .appendLog → scope.logs) →
      b.faults method (b.calls method) = a.faults method (a.calls method)
  counted : ∀ {a b}, alike a b → ∀ method,
    (method = .appendLog → scope.logs) →
      alike (a.counted method) (b.counted method)
  cancelled : ∀ {a b}, alike a b →
    alike (a.withPatience (some 0)) (b.withPatience (some 0))
  minted : ∀ {a b}, alike a b → ∀ ids,
    alike { a with ids } { b with ids }
  left : ∀ {a b}, alike a b → ∀ effect, scope.leaves effect →
    alike (Effect.apply a effect) (Effect.apply b effect)

/-- From surroundings that it cannot tell apart, a computation ends in the same
way, in surroundings that it cannot tell apart. -/
theorem Acts.unseen
    {alike : Host → Host → Prop} (hunseen : Unseen scope alike)
    {x : Run Host α} (h : Acts scope x) :
    Run.Agrees alike x := by
  induction h with
  | pure value => exact .pure value
  | bind _ _ ihx ihnext => exact .bind ihx ihnext
  | guarded _ ih => exact .guarded ih
  | breakOff => exact fun _ _ hab => ⟨rfl, hab⟩
  | look view hcounters hworkflows hlog =>
      refine .gets fun a b hab => ?_
      obtain ⟨calls, patience, workflows, faults, logs, fails, rfl, hsame,
        hsameLog⟩ := hunseen.hidden hab
      let counted := a.withCounters a.ids calls patience
      have hloaded :
          view (counted.withWorkflows workflows) = view counted := by
        rcases hworkflows with hloads | hworkflows
        · rw [hsame hloads]
          rfl
        · exact hworkflows _ _
      have hlogged :
          view ((counted.withWorkflows workflows).withLog faults logs fails) =
            view (counted.withWorkflows workflows) := by
        rcases hlog with hlogs | hlog
        · obtain ⟨rfl, rfl, rfl⟩ := hsameLog hlogs
          rfl
        · exact hlog _ _ _ _
      exact hlogged.trans (hloaded.trans (hcounters a calls patience))
  | mintId =>
      intro a b hab
      have hids : b.ids = a.ids := by
        obtain ⟨_, _, _, _, _, _, rfl, -⟩ := hunseen.hidden hab
        rfl
      refine ⟨?_, ?_⟩
      · exact congrArg (fun ids => Ending.value ids.draw.1) hids
      · have hb : (Host.mintId b).2 = { b with ids := a.ids.draw.2 } := by
          rw [← hids]
          rfl
        rw [hb]
        exact hunseen.minted hab a.ids.draw.2
  | call method hmethod husual hunfiltered ihusual ihunfiltered =>
      intro a b hab
      rw [callEither_run_apply, callEither_run_apply,
        hunseen.disturbed hab method hmethod]
      have hcounted := hunseen.counted hab method hmethod
      cases a.faults method (a.calls method) with
      | none => exact ihusual _ _ hcounted
      | error => exact ⟨rfl, hcounted⟩
      | panic => exact ⟨rfl, hcounted⟩
      | cancel => exact ihusual _ _ (hunseen.cancelled hcounted)
      | unfiltered => exact ihunfiltered _ _ hcounted
  | leave effect heffect =>
      exact .modify fun _ _ hab => hunseen.left hab effect heffect

theorem unseen_patience (scope : Scope) :
    Unseen scope fun a b => ∃ patience, b = a.withPatience patience where
  hidden := by
    rintro a _ ⟨patience, rfl⟩
    exact ⟨a.calls, patience, a.store.workflows, a.faults, a.store.logs,
      a.store.logWritesFail, rfl, fun _ => rfl, fun _ => ⟨rfl, rfl, rfl⟩⟩
  disturbed := by
    rintro a _ ⟨patience, rfl⟩ method -
    rfl
  counted := by
    rintro a _ ⟨patience, rfl⟩ method -
    exact ⟨patience, rfl⟩
  cancelled := by
    rintro a _ ⟨patience, rfl⟩
    exact ⟨some 0, rfl⟩
  minted := by
    rintro a _ ⟨patience, rfl⟩ ids
    exact ⟨patience, rfl⟩
  left := by
    rintro a _ ⟨patience, rfl⟩ effect -
    exact ⟨patience, by cases effect <;> rfl⟩

/-- What is put together from calls does not see the patience of the token. -/
theorem Acts.blind
    {x : Run Host α} (h : Acts scope x)
    (host : Host) (patience : Option Nat) :
    ∃ left,
      x (host.withPatience patience) =
        ((x host).1, (x host).2.withPatience left) := by
  obtain ⟨hending, left, hlater⟩ :=
    h.unseen (unseen_patience scope) _ _ ⟨patience, rfl⟩
  exact ⟨left, Prod.ext hending hlater⟩

theorem unseen_calls (scope : Scope) :
    Unseen scope fun a b =>
      a.faults = .calm ∧
        ∃ calls, b = a.withCounters a.ids calls a.patience where
  hidden := by
    rintro a _ ⟨-, calls, rfl⟩
    exact ⟨calls, a.patience, a.store.workflows, a.faults, a.store.logs,
      a.store.logWritesFail, rfl, fun _ => rfl, fun _ => ⟨rfl, rfl, rfl⟩⟩
  disturbed := by
    rintro a _ ⟨hcalm, calls, rfl⟩ method -
    simp only [withCounters, hcalm]
    rfl
  counted := by
    rintro a _ ⟨hcalm, calls, rfl⟩ method -
    exact ⟨hcalm, _, rfl⟩
  cancelled := by
    rintro a _ ⟨hcalm, calls, rfl⟩
    exact ⟨hcalm, calls, rfl⟩
  minted := by
    rintro a _ ⟨hcalm, calls, rfl⟩ ids
    exact ⟨hcalm, calls, rfl⟩
  left := by
    rintro a _ ⟨hcalm, calls, rfl⟩ effect -
    refine ⟨?_, calls, by cases effect <;> rfl⟩
    cases effect <;> exact hcalm

theorem Acts.blind_calls
    {x : Run Host α} (h : Acts scope x) {host : Host}
    (hcalm : host.faults = .calm) (calls : Method → Nat) :
    ∃ left,
      x (host.withCounters host.ids calls host.patience) =
        ((x host).1,
          (x host).2.withCounters (x host).2.ids left (x host).2.patience) := by
  obtain ⟨hending, -, left, hlater⟩ :=
    h.unseen (unseen_calls scope) _ _ ⟨hcalm, calls, rfl⟩
  exact ⟨left, Prod.ext hending hlater⟩

theorem unseen_workflows
    (hloads : ¬ scope.loads) (workflows : List Workflow) :
    Unseen scope fun a b => b = a.withWorkflows workflows where
  hidden := by
    rintro a _ rfl
    exact ⟨a.calls, a.patience, workflows, a.faults, a.store.logs,
      a.store.logWritesFail, rfl, fun h => absurd h hloads,
      fun _ => ⟨rfl, rfl, rfl⟩⟩
  disturbed := by
    rintro a _ rfl method -
    rfl
  counted := by
    rintro a _ rfl method -
    rfl
  cancelled := by
    rintro a _ rfl
    rfl
  minted := by
    rintro a _ rfl ids
    rfl
  left := by
    rintro a _ rfl effect -
    cases effect <;> rfl

theorem Acts.blind_workflows
    {x : Run Host α} (h : Acts scope x) (hloads : ¬ scope.loads)
    (host : Host) (workflows : List Workflow) :
    x (host.withWorkflows workflows) =
      ((x host).1, (x host).2.withWorkflows workflows) := by
  obtain ⟨hending, hlater⟩ :=
    h.unseen (unseen_workflows hloads workflows) _ _ rfl
  exact Prod.ext hending hlater

/-- Only a disturbance that cancels the run takes patience. -/
theorem Acts.patience
    {x : Run Host α} (h : Acts scope x) {host : Host}
    (hcancel : ∀ method index, host.faults method index ≠ .cancel) :
    (x host).2.patience = host.patience := by
  induction h generalizing host with
  | pure a => rfl
  | @bind _ _ x next hx hnext ihx ihnext =>
      obtain ⟨effects, -, hleads⟩ := hx.leads host
      have hfirst := ihx hcancel
      rcases hs : x host with ⟨a | _, middle⟩
      · rw [hs] at hleads hfirst
        rw [Run.bind_of_value hs, ihnext a, hfirst]
        rw [hleads.faults]
        exact hcancel
      · rw [hs] at hfirst
        rw [Run.bind_of_panic hs]
        exact hfirst
  | guarded hx ih =>
      rw [Run.guarded_state]
      exact ih hcancel
  | breakOff => rfl
  | look view _ _ _ => rfl
  | mintId => rfl
  | call method _ husual hunfiltered ihusual ihunfiltered =>
      rw [callEither_run_apply]
      cases hfault : host.faults method (host.calls method) with
      | none => exact ihusual hcancel
      | error => rfl
      | panic => rfl
      | cancel => exact absurd hfault (hcancel method _)
      | unfiltered => exact ihunfiltered hcancel
  | leave effect heffect => cases effect <;> rfl

end Host

end RecordRules
