import RecordRules.Proofs.AlikeResults

/-!
# Redelivered orders

A lease may end before its order is completed, so that an order may be run any
number of times.  Every run begins with the record of the snapshot, whatever was
written before; so each of them comes to the same, and what is saved after all of
them is what is saved after the first.
-/

namespace RecordRules

open Host (Akin Leads)

/-! ## Saving the same changes again -/

namespace Fields

theorem insertAll_insertAll_self
    {pairs : List (String × Json)} {key : Option String}
    (hsingle : names pairs = key.toList) (fields : Fields) :
    insertAll (insertAll fields pairs) pairs = insertAll fields pairs := by
  rcases pairs with _ | ⟨pair, _ | ⟨second, rest⟩⟩
  · rfl
  · exact insert_insert_self pair.1 pair.2 fields
  · cases key <;> simp [names] at hsingle

end Fields

namespace WorkflowStore

theorem mergeSaved_mergeSaved_self
    (key : String × String) {changes : Fields}
    (hagain : ∀ fields : Fields,
      (fields.insertAll changes).insertAll changes = fields.insertAll changes)
    (saved : List ((String × String) × Fields)) :
    mergeSaved key changes (mergeSaved key changes saved) =
      mergeSaved key changes saved := by
  induction saved with
  | nil => simp [mergeSaved, hagain]
  | cons entry rest ih =>
      obtain ⟨other, fields⟩ := entry
      by_cases hkey : other == key
      · simp [mergeSaved, hkey, hagain]
      · simp [mergeSaved, hkey, ih]

end WorkflowStore

theorem Record.dirty_of_ofSnapshot
    {json : Json} {record : Record} (h : Record.ofSnapshot json = .ok record) :
    record.dirty = [] := by
  unfold Record.ofSnapshot at h
  split at h
  · rename_i found hfound
    obtain rfl := Except.ok.inj h
    unfold Record.ofJson at hfound
    obtain ⟨fields, -, hfound⟩ := Json.bind_eq_ok hfound
    obtain ⟨recordType, -, hfound⟩ := Json.bind_eq_ok hfound
    obtain ⟨id, -, hfound⟩ := Json.bind_eq_ok hfound
    obtain ⟨values, -, hfound⟩ := Json.bind_eq_ok hfound
    obtain ⟨schema, -, hfound⟩ := Json.bind_eq_ok hfound
    exact congrArg Record.dirty (Except.ok.inj hfound).symm
  · simp at h

theorem Record.savedOver_savedOver
    {record : Record} {key : Option String}
    (hsingle : record.changes.names = key.toList)
    (saved : List ((String × String) × Fields)) :
    record.savedOver (record.savedOver saved) = record.savedOver saved := by
  unfold Record.savedOver
  split
  · exact WorkflowStore.mergeSaved_mergeSaved_self _
      (Fields.insertAll_insertAll_self hsingle) saved
  · rfl

/-! ## One delivery -/

namespace Engine

variable {delayed : DelayedAction} {host : Host}

/-- What the order comes to in surroundings that are akin to some others and
have the same action: the same result, and the same changes saved. -/
structure Delivers
    (delayed : DelayedAction) (once : ActionResult)
    (settle : List ((String × String) × Fields) →
      List ((String × String) × Fields))
    (before : Host) (ended : Ending ActionResult × Host) : Prop where
  result : ∃ result, ended.1 = .value result ∧ once.Alike result
  saved : ended.2.store.saved = settle before.store.saved
  standing : ended.2.standing = before.standing
  workflows : ended.2.store.workflows = before.store.workflows

theorem delivers_of_settled
    (hcalm : host.faults = .calm) {result : ActionResult}
    (htask : delayed.task host.store = .settled result) :
    Delivers delayed result id host (runDelayed delayed host) := by
  obtain ⟨entryId, later, hrun, hleads⟩ := runDelayed_of_settled hcalm htask
  rw [hrun]
  exact
    { result := ⟨result, rfl, .refl result⟩
      saved := hleads.saved_of_not_ofSave (LogEntry.unsaved_logging _ host)
      standing := hleads.standing
      workflows := hleads.workflows }

theorem delivers_of_perform
    {first : Host} {action : Action} {record written : Record}
    {once : ActionResult} {ran : Host} (hakin : Akin first host)
    (hfirst : Execution.executeNow action record delayed.context first =
      (.value (once, written), ran))
    (htask : delayed.task host.store = .perform action record) :
    Delivers delayed once written.savedOver host (runDelayed delayed host) := by
  obtain ⟨result, writtenHere, ranHere, entryId, later, hnow, hrun, hleads⟩ :=
    runDelayed_of_perform hakin.calmOther htask
  have hmatched :=
    Execution.matches_executeNow action record delayed.context first host hakin
  rw [hfirst, hnow] at hmatched
  obtain ⟨⟨hresult, hwritten⟩, -⟩ := hmatched
  obtain rfl : writtenHere = written := hwritten
  obtain ⟨effects, hatOnce, hran⟩ :=
    (Execution.acts_executeNow action record delayed.context).leads host
  rw [hnow] at hran
  have hsavedRan : ranHere.store.saved = host.store.saved :=
    hran.saved_of_not_ofSave fun effect hmem =>
      (hatOnce effect hmem).ofAction.not_ofSave
  rw [hrun]
  exact
    { result := ⟨result, rfl, hresult⟩
      saved := by
        rw [← hsavedRan]
        exact saved_of_saving hleads (LogEntry.unsaved_logging _ host)
      standing := hleads.standing.trans hran.standing
      workflows := hleads.workflows.trans hran.workflows }

/-- What a delivery comes to is settled by the first surroundings, and to save
it again changes nothing. -/
theorem deliveries_agree
    (delayed : DelayedAction) {first : Host} (hcalm : first.faults = .calm) :
    ∃ once ran settle,
      runDelayed delayed first = (.value once, ran) ∧
        (∀ saved, settle (settle saved) = settle saved) ∧
        ∀ host, Akin first host →
          host.store.action? delayed.actionId =
              first.store.action? delayed.actionId →
            Delivers delayed once settle host (runDelayed delayed host) := by
  have hsameTask : ∀ host : Host,
      host.store.action? delayed.actionId =
          first.store.action? delayed.actionId →
        delayed.task host.store = delayed.task first.store := by
    intro host haction
    rw [DelayedAction.task, haction, DelayedAction.task]
  cases htask : delayed.task first.store with
  | settled result =>
      obtain ⟨_, ran, hrun, -⟩ := runDelayed_of_settled hcalm htask
      refine ⟨result, ran, id, hrun, fun _ => rfl, fun host hakin haction => ?_⟩
      exact delivers_of_settled hakin.calmOther
        ((hsameTask host haction).trans htask)
  | perform action record =>
      obtain ⟨once, written, ran, _, later, hnow, hrun, -⟩ :=
        runDelayed_of_perform hcalm htask
      have hclean : record.dirty = [] := by
        unfold DelayedAction.task at htask
        split at htask
        · simp at htask
        · rename_i found hfound
          split at htask
          · simp at htask
          · obtain ⟨-, rfl⟩ := DelayedTask.perform.inj htask
            exact Record.dirty_of_ofSnapshot hfound
      have hfaithful :
          Performed.Faithful ⟨delayed.context, action, record, once, written⟩ :=
        (Execution.yields_executeNow action record delayed.context first _ ran
          hnow).2
      obtain ⟨hsingle, -⟩ := changes_of_faithful hfaithful hclean
      refine ⟨once, later, written.savedOver, hrun,
        Record.savedOver_savedOver hsingle, fun host hakin haction => ?_⟩
      exact delivers_of_perform hakin hnow
        ((hsameTask host haction).trans htask)

/-! ## All deliveries -/

/-- Delivers the order again and again, each time after something has happened
in the surroundings. -/
def deliver (delayed : DelayedAction) :
    List (Host → Host) → Run Host (List ActionResult)
  | [] => pure []
  | meanwhile :: rest => do
    Run.modify meanwhile
    let result ← runDelayed delayed
    let results ← deliver delayed rest
    return result :: results

/-- What happens leaves alone what the order depends on, and what is saved. -/
structure Spares (delayed : DelayedAction) (meanwhile : Host → Host) : Prop where
  standing : ∀ host, (meanwhile host).standing = host.standing
  action : ∀ host,
    (meanwhile host).store.action? delayed.actionId =
      host.store.action? delayed.actionId
  saved : ∀ host, (meanwhile host).store.saved = host.store.saved

theorem deliver_cons
    (meanwhile : Host → Host) (rest : List (Host → Host)) (host : Host)
    {result : ActionResult} {results : List ActionResult} {middle later : Host}
    (hfirst : runDelayed delayed (meanwhile host) = (.value result, middle))
    (hrest : deliver delayed rest middle = (.value results, later)) :
    deliver delayed (meanwhile :: rest) host =
      (.value (result :: results), later) := by
  rw [deliver, Run.modify_bind, Run.bind_of_value hfirst,
    Run.bind_of_value hrest]
  rfl

theorem deliver_of_agree
    {first : Host} {once : ActionResult}
    {settle : List ((String × String) × Fields) →
      List ((String × String) × Fields)}
    (hagain : ∀ saved, settle (settle saved) = settle saved)
    (hdelivers : ∀ host, Akin first host →
      host.store.action? delayed.actionId =
          first.store.action? delayed.actionId →
        Delivers delayed once settle host (runDelayed delayed host))
    (changes : List (Host → Host))
    (hspares : ∀ meanwhile ∈ changes, Spares delayed meanwhile)
    (host : Host) (hakin : Akin first host)
    (haction : host.store.action? delayed.actionId =
      first.store.action? delayed.actionId) :
    ∃ results later,
      deliver delayed changes host = (.value results, later) ∧
        results.length = changes.length ∧
        (∀ result ∈ results, once.Alike result) ∧
        later.store.saved =
          if changes = [] then host.store.saved
          else settle host.store.saved := by
  -- whatever was saved before, after one delivery it is settled
  induction changes generalizing host with
  | nil => exact ⟨[], host, rfl, rfl, by simp, rfl⟩
  | cons meanwhile rest ih =>
      obtain ⟨hspare, hspareRest⟩ := List.forall_mem_cons.mp hspares
      have hakinNext : Akin first (meanwhile host) :=
        hakin.of_standing rfl (hspare.standing host)
      have hactionNext := (hspare.action host).trans haction
      have hdelivery := hdelivers (meanwhile host) hakinNext hactionNext
      obtain ⟨result, hresult, halike⟩ := hdelivery.result
      rcases hrun : runDelayed delayed (meanwhile host) with ⟨ending, middle⟩
      rw [hrun] at hdelivery hresult
      obtain rfl : ending = .value result := hresult
      have hactionMiddle :
          middle.store.action? delayed.actionId =
            first.store.action? delayed.actionId := by
        rw [← hactionNext, WorkflowStore.action?, WorkflowStore.actions,
          hdelivery.workflows]
        rfl
      obtain ⟨results, later, hrest, hlength, hall, hsaved⟩ :=
        ih hspareRest middle
          (hakinNext.of_standing rfl hdelivery.standing) hactionMiddle
      refine ⟨result :: results, later, deliver_cons meanwhile rest host hrun
        hrest, by simp [hlength], List.forall_mem_cons.mpr ⟨halike, hall⟩, ?_⟩
      have hmiddle : middle.store.saved = settle host.store.saved := by
        rw [hdelivery.saved, hspare.saved]
      rw [hsaved, hmiddle, hagain, ite_self, if_neg (by simp)]

/-- However often an order is delivered, and whatever happens in between that
leaves alone what the order depends on, every run comes to the result of a
single one, and the saved changes are those that a single one leaves. -/
theorem redelivery_saves_nothing_more
    (delayed : DelayedAction) (host : Host) (hcalm : host.faults = .calm)
    (changes : List (Host → Host)) (hsome : changes ≠ [])
    (hspares : ∀ meanwhile ∈ changes, Spares delayed meanwhile) :
    ∃ once ran results later,
      runDelayed delayed host = (.value once, ran) ∧
        deliver delayed changes host = (.value results, later) ∧
        results.length = changes.length ∧
        (∀ result ∈ results,
          result.status = once.status ∧ once.Alike result) ∧
        ∀ recordType recordId,
          later.store.saved? recordType recordId =
            ran.store.saved? recordType recordId := by
  obtain ⟨once, ran, settle, hrun, hagain, hdelivers⟩ :=
    deliveries_agree delayed hcalm
  obtain ⟨results, later, hdeliver, hlength, halike, hsaved⟩ :=
    deliver_of_agree hagain hdelivers changes hspares host (.refl hcalm) rfl
  have honce := hdelivers host (.refl hcalm) rfl
  rw [hrun] at honce
  refine ⟨once, ran, results, later, hrun, hdeliver, hlength,
    fun result hmem => ⟨(halike result hmem).status_eq, halike result hmem⟩,
    fun recordType recordId => ?_⟩
  rw [WorkflowStore.saved?, WorkflowStore.saved?, hsaved, if_neg hsome,
    honce.saved]

def exclaim : Action :=
  { Action.updateField (.numbered 3) "Status" "{{Status}}!" with
    ruleId := .numbered 2
    delayMinutes := 5 }

def exclamation : Workflow :=
  (Workflow.ofName (.numbered 1) "Exclamation" "Ticket" .onCreate).withRule
    ((Rule.ofName (.numbered 2) "Exclaim").withAction exclaim)

/-- An order delivered three times, with time passing in between, puts one mark
behind the status. -/
theorem redelivery_saves_nothing_more_exclamation :
    let host := Host.ofWorkflows [exclamation] ⟨300, 0⟩
    let order :=
      exclaim.deferral newTicket escalationContext (.numbered 4) ⟨0, 0⟩
        ⟨300, 0⟩
    let passes : Host → Host := fun host => { host with now := ⟨900, 0⟩ }
    ∃ once ran results later,
      runDelayed order host = (.value once, ran) ∧
        deliver order [id, passes, id] host = (.value results, later) ∧
        results.length = 3 ∧
        (∀ result ∈ results, result.status = once.status) ∧
        (later.store.saved? "Ticket" "t-1").bind
            (fun fields => (fields.get? "Status").bind Json.text?) =
          some "New!" := by
  intro host order passes
  have hspares : ∀ meanwhile ∈ [id, passes, id], Spares order meanwhile := by
    have hid : Spares order id :=
      ⟨fun _ => rfl, fun _ => rfl, fun _ => rfl⟩
    have hpasses : Spares order passes :=
      ⟨fun _ => rfl, fun _ => rfl, fun _ => rfl⟩
    simp [hid, hpasses]
  obtain ⟨once, ran, results, later, hrun, hdeliver, hlength, hall, hsaved⟩ :=
    redelivery_saves_nothing_more order host rfl [id, passes, id] (by simp)
      hspares
  refine ⟨once, ran, results, later, hrun, hdeliver, hlength,
    fun result hmem => (hall result hmem).1, ?_⟩
  rw [hsaved, show ran = (runDelayed order host).2 by rw [hrun]]
  decide +kernel

end Engine

end RecordRules
