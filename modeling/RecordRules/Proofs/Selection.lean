import RecordRules.Proofs.SessionSteps
import RecordRules.Proofs.StableSort

/-!
# The selection of workflows

Whatever list of workflows is loaded, those that apply are chosen from it and
sorted.  To choose from workflows that all apply and are in order changes
nothing, so that it does no harm that the store chooses as well.  The rules of
a workflow and the actions of a rule are sorted in the same way.
-/

namespace RecordRules

open Host (Acts)

def Workflow.inOrder (first second : Int) : Bool := decide (first ≤ second)

theorem stableSort_inOrder {α : Type} (key : α → Int) (items : List α) :
    StableSort key Workflow.inOrder items
      (items.mergeSort fun a b => decide (key a ≤ key b)) := by
  have htrans : ∀ a b c, Workflow.inOrder a b = true →
      Workflow.inOrder b c = true → Workflow.inOrder a c = true := by
    intro a b c hab hbc
    simp only [Workflow.inOrder, decide_eq_true_eq] at hab hbc ⊢
    exact Int.le_trans hab hbc
  have htotal : ∀ a b,
      Workflow.inOrder a b = true ∨ Workflow.inOrder b a = true := by
    intro a b
    simpa [Workflow.inOrder] using Int.le_total a b
  exact stableSort_mergeSort key htrans htotal items

/-! ## What is active -/

theorem Rule.stableSort_activeActions (rule : Rule) :
    StableSort Action.executionOrder Workflow.inOrder
      (rule.actions.filter Action.isActive) rule.activeActions :=
  stableSort_inOrder Action.executionOrder _

theorem Workflow.stableSort_activeRules (workflow : Workflow) :
    StableSort Rule.executionOrder Workflow.inOrder
      (workflow.rules.filter Rule.isActive) workflow.activeRules :=
  stableSort_inOrder Rule.executionOrder _

/-! ## What applies -/

section Applicable

variable {workflows : List Workflow} {recordType : String}
  {trigger : TriggerType}

theorem Workflow.mem_of_applicable
    {workflow : Workflow}
    (h : workflow ∈ Workflow.applicable workflows recordType trigger) :
    workflow ∈ workflows := by
  simp only [Workflow.applicable, List.mem_mergeSort, List.mem_filter] at h
  exact h.1

theorem Workflow.appliesTo_of_applicable
    {workflow : Workflow}
    (h : workflow ∈ Workflow.applicable workflows recordType trigger) :
    workflow.appliesTo recordType trigger = true := by
  simp only [Workflow.applicable, List.mem_mergeSort, List.mem_filter] at h
  exact h.2

theorem Workflow.stableSort_applicable
    (workflows : List Workflow) (recordType : String) (trigger : TriggerType) :
    StableSort Workflow.executionOrder Workflow.inOrder
      (workflows.filter fun workflow => workflow.appliesTo recordType trigger)
      (Workflow.applicable workflows recordType trigger) :=
  stableSort_inOrder Workflow.executionOrder _

theorem Workflow.appliesTo_eq_decide (workflow : Workflow) :
    workflow.appliesTo recordType trigger =
      decide (workflow.isActive ∧ workflow.triggerType = trigger ∧
        workflow.recordType = recordType) := by
  rw [Bool.eq_iff_iff, decide_eq_true_iff]
  simp [Workflow.appliesTo, and_assoc]

/-- What applies is the one stable sort of the workflows that are active and
bound to the record type and the trigger. -/
theorem Workflow.stableSort_iff {sorted : List Workflow} :
    StableSort Workflow.executionOrder Workflow.inOrder
        (workflows.filter fun workflow =>
          workflow.appliesTo recordType trigger) sorted ↔
      sorted = Workflow.applicable workflows recordType trigger := by
  have hantisymm : ∀ a b, inOrder a b = true → inOrder b a = true → a = b := by
    intro a b hab hba
    simp only [inOrder, decide_eq_true_eq] at hab hba
    exact Int.le_antisymm hab hba
  have happlicable :=
    Workflow.stableSort_applicable workflows recordType trigger
  constructor
  · intro hsorted
    exact hsorted.unique hantisymm happlicable
  · rintro rfl
    exact happlicable

theorem Workflow.applicable_eq_self
    (happlies : ∀ workflow ∈ workflows,
      workflow.appliesTo recordType trigger = true)
    (hordered : workflows.Pairwise fun a b =>
      inOrder a.executionOrder b.executionOrder = true) :
    Workflow.applicable workflows recordType trigger = workflows := by
  rw [Workflow.applicable, List.filter_eq_self.mpr happlies]
  exact List.mergeSort_of_pairwise hordered

theorem Workflow.applicable_applicable
    (workflows : List Workflow) (recordType : String) (trigger : TriggerType) :
    Workflow.applicable (Workflow.applicable workflows recordType trigger)
        recordType trigger =
      Workflow.applicable workflows recordType trigger :=
  Workflow.applicable_eq_self (fun _ => Workflow.appliesTo_of_applicable)
    (Workflow.stableSort_applicable workflows recordType trigger).ordered

end Applicable

namespace Engine

theorem applicable_apply
    (recordType : String) (trigger : TriggerType) (host : Host) :
    (applicable recordType trigger).run host =
      match (Host.loadWorkflows recordType trigger).run host with
      | (.value (.ok loaded), later) =>
        (.value (.ok (Workflow.applicable loaded recordType trigger)), later)
      | (.value (.error error), later) => (.value (.error error), later)
      | (.panic, later) => (.panic, later) := by
  rcases hload : (Host.loadWorkflows recordType trigger).run host with
    ⟨(error | loaded) | _, later⟩
  · exact Run.bind_of_value hload _
  · exact Run.bind_of_value hload _
  · exact Run.bind_of_panic hload _

/-- A run that is not stopped before goes on with the workflows that apply. -/
theorem runTrigger_of_applicable
    {engine : Engine} (henabled : engine.enabled = true) {host : Host}
    {record : Record} {trigger : TriggerType} {context : TriggerContext}
    {chosen : List Workflow} (hgivesUp : host.givesUp context = false)
    (hload :
      host.faults .loadWorkflows (host.calls .loadWorkflows) = .none)
    (hchosen :
      Workflow.applicable host.store.workflows record.recordType trigger =
        chosen)
    (prior : Option Record) :
    engine.runTrigger trigger prior context (.begin host record) =
      (runWorkflows trigger prior context chosen >>= fun _ => persist)
        ⟨(host.withPatience (host.patienceLeft context)).counted
            .loadWorkflows,
          record, .zero, [.asked false]⟩ := by
  let ready := host.withPatience (host.patienceLeft context)
  have hready :
      ready.faults .loadWorkflows (ready.calls .loadWorkflows) = .none := hload
  have happlicable :
      (applicable record.recordType trigger).run ready =
        (.value (.ok chosen), ready.counted .loadWorkflows) := by
    rw [applicable_apply, Host.loadWorkflows, Host.callEither_run_apply,
      hready]
    -- the store chooses as well, which changes nothing
    have hagain :=
      (Workflow.applicable_applicable _ record.recordType trigger).trans
        hchosen
    exact congrArg (fun kept => (Ending.value (Except.ok kept), _)) hagain
  rw [runTrigger_of_goesOn henabled trigger prior hgivesUp]
  exact runApplicable_of_loaded trigger prior context happlicable

/-- From a store of workflows that are chosen as they are, these are chosen if
any are. -/
theorem applicable_withWorkflows
    {kept : List Workflow} {recordType : String} {trigger : TriggerType}
    (hkept : Workflow.applicable kept recordType trigger = kept)
    (host : Host) :
    (applicable recordType trigger).run (host.withWorkflows kept) =
      match (applicable recordType trigger).run host with
      | (.value (.ok _), later) =>
        (.value (.ok kept), later.withWorkflows kept)
      | (.value (.error error), later) =>
        (.value (.error error), later.withWorkflows kept)
      | (.panic, later) => (.panic, later.withWorkflows kept) := by
  have hagain :
      Workflow.applicable (Workflow.applicable kept recordType trigger)
          recordType trigger = kept := by
    rw [hkept, hkept]
  have hfaults :
      (host.withWorkflows kept).faults .loadWorkflows
          ((host.withWorkflows kept).calls .loadWorkflows) =
        host.faults .loadWorkflows (host.calls .loadWorkflows) := rfl
  rw [applicable_apply, applicable_apply, Host.loadWorkflows,
    Host.callEither_run_apply, Host.callEither_run_apply, hfaults]
  let chose (chosen : List Workflow) (later : Host) :
      Ending (Except WorkflowError (List Workflow)) × Host :=
    (.value (.ok chosen), later)
  cases host.faults .loadWorkflows (host.calls .loadWorkflows) with
  | none => exact congrArg (chose · _) hagain
  | error => rfl
  | panic => rfl
  | cancel => exact congrArg (chose · _) hagain
  | unfiltered => exact congrArg (chose · _) hkept

end Engine

end RecordRules
