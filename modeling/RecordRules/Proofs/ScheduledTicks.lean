import Mathlib.Data.List.Nodup
import RecordRules.Jobs.ScheduledTick
import RecordRules.Proofs.AbreastRuns
import RecordRules.Proofs.SavedWrites

/-!
# Ticks treat records apart

A tick runs its workflow on one record after the other, while their actions
write to the stores that all of them share.  Still each record fares as in a
tick over a store that holds it alone, but for the number of linked records that
an entry may tell; so the order of the records does not matter to what the tick
counts.
-/

namespace RecordRules

open Host (Leads)

def Workflow.actions (workflow : Workflow) : List Action :=
  workflow.rules.flatMap Rule.actions

theorem Workflow.activeActions_subset
    (workflow : Workflow) :
    ∀ rule ∈ workflow.activeRules, rule.activeActions ⊆ workflow.actions := by
  intro rule hrule action haction
  have hmem : rule ∈ workflow.rules :=
    (List.mem_filter.mp (List.mem_mergeSort.mp hrule)).1
  have hstored : action ∈ rule.actions :=
    (List.mem_filter.mp (List.mem_mergeSort.mp haction)).1
  exact List.mem_flatMap.mpr ⟨rule, hmem, hstored⟩

/-! ## Saved changes of other records -/

theorem WorkflowStore.lookup_mergeSaved_of_ne
    {key other : String × String} (hne : other ≠ key) (changes : Fields)
    (saved : List ((String × String) × Fields)) :
    (mergeSaved key changes saved).lookup other = saved.lookup other := by
  induction saved with
  | nil => simp [mergeSaved, hne]
  | cons entry rest ih =>
      obtain ⟨present, fields⟩ := entry
      by_cases hpresent : present = key
      · subst hpresent
        simp [mergeSaved, List.lookup_cons, beq_false_of_ne hne]
      · simp [mergeSaved, List.lookup_cons, hpresent, ih]

namespace Record

variable {record : Record} {key : String × String}

theorem lookup_savedOver_of_ne
    (hne : key ≠ (record.recordType, record.id))
    (saved : List ((String × String) × Fields)) :
    (record.savedOver saved).lookup key = saved.lookup key := by
  unfold savedOver
  split
  · exact WorkflowStore.lookup_mergeSaved_of_ne hne _ _
  · rfl

theorem lookup_savedOver_congr
    {saved other : List ((String × String) × Fields)}
    (h : saved.lookup (record.recordType, record.id) =
      other.lookup (record.recordType, record.id)) :
    (record.savedOver saved).lookup (record.recordType, record.id) =
      (record.savedOver other).lookup (record.recordType, record.id) := by
  unfold savedOver
  split
  · rw [WorkflowStore.lookup_mergeSaved, WorkflowStore.lookup_mergeSaved, h]
  · exact h

end Record

namespace Host

/-- Every entry written in between is about one of the records, and no changes
of other records were saved. -/
structure Touches (records : List Record) (host later : Host) : Prop where
  logs : ∃ entries,
    later.store.logs = host.store.logs ++ entries ∧
      ∀ entry ∈ entries, ∃ record ∈ records,
        entry.recordType = record.recordType ∧ entry.recordId = record.id
  saved : ∀ recordType recordId,
    (∀ record ∈ records,
      (recordType, recordId) ≠ (record.recordType, record.id)) →
        later.store.saved? recordType recordId =
          host.store.saved? recordType recordId

theorem Abreast.refl
    (actions : List Action) {host : Host} (hcalm : host.faults = .calm) :
    Abreast actions host host :=
  ⟨.refl hcalm, rfl, rfl, fun _ _ => rfl⟩

theorem Touches.refl (host : Host) : Touches [] host host where
  logs := ⟨[], by simp, by simp⟩
  saved := fun _ _ _ => rfl

theorem Touches.trans
    {first second : List Record} {a b c : Host} (hfirst : Touches first a b)
    (hsecond : Touches second b c) : Touches (first ++ second) a c where
  logs := by
    obtain ⟨entries, hlogs, hall⟩ := hfirst.logs
    obtain ⟨more, hmore, hallMore⟩ := hsecond.logs
    refine ⟨entries ++ more, by rw [hmore, hlogs, List.append_assoc], ?_⟩
    intro entry hmem
    rcases List.mem_append.mp hmem with hmem | hmem
    · obtain ⟨record, hrecord, habout⟩ := hall entry hmem
      exact ⟨record, List.mem_append_left _ hrecord, habout⟩
    · obtain ⟨record, hrecord, habout⟩ := hallMore entry hmem
      exact ⟨record, List.mem_append_right _ hrecord, habout⟩
  saved := fun recordType recordId hothers => by
    rw [hsecond.saved recordType recordId fun record hmem =>
        hothers record (List.mem_append_right _ hmem),
      hfirst.saved recordType recordId fun record hmem =>
        hothers record (List.mem_append_left _ hmem)]

theorem Touches.none_about
    {records : List Record} {host later : Host} {id : String}
    (h : Touches records host later)
    (hothers : ∀ record ∈ records, record.id ≠ id) :
    ∃ entries,
      later.store.logs = host.store.logs ++ entries ∧
        entries.filter (fun entry => entry.recordId == id) = [] := by
  obtain ⟨entries, hlogs, hall⟩ := h.logs
  refine ⟨entries, hlogs, List.filter_eq_nil_iff.mpr fun entry hmem => ?_⟩
  obtain ⟨record, hrecord, -, hid⟩ := hall entry hmem
  rw [hid, beq_iff_eq]
  exact hothers record hrecord

theorem Touches.saved?_eq
    {records : List Record} {host later : Host} {recordType id : String}
    (h : Touches records host later)
    (hothers : ∀ record ∈ records, record.id ≠ id) :
    later.store.saved? recordType id = host.store.saved? recordType id := by
  refine h.saved recordType id fun record hrecord hkey => ?_
  exact hothers record hrecord (congrArg Prod.snd hkey).symm

theorem EndAbreast.touches
    {record : Record} {a b later laterOther : Host}
    (h : EndAbreast record a b later laterOther) :
    Touches [record] b laterOther where
  logs := by
    obtain ⟨entries, others, -, hlogs, -, hall⟩ := h.logs
    exact ⟨others, hlogs, fun other hmem => ⟨record, by simp, hall other hmem⟩⟩
  saved := fun recordType recordId hother => by
    obtain ⟨final, htype, hid, -, hsaved⟩ := h.saved
    have hne := hother record (by simp)
    rw [← htype, ← hid] at hne
    rw [WorkflowStore.saved?, hsaved, Record.lookup_savedOver_of_ne hne]
    rfl

theorem EndAbreast.saved?_eq
    {record : Record} {a b later laterOther : Host}
    (h : EndAbreast record a b later laterOther)
    (hsame : a.store.saved? record.recordType record.id =
      b.store.saved? record.recordType record.id) :
    laterOther.store.saved? record.recordType record.id =
      later.store.saved? record.recordType record.id := by
  obtain ⟨final, htype, hid, hsaved, hsavedOther⟩ := h.saved
  rw [← htype, ← hid] at hsame ⊢
  unfold WorkflowStore.saved? at hsame ⊢
  rw [hsaved, hsavedOther, Record.lookup_savedOver_congr hsame]

end Host

namespace TickResult

def process
    (engine : Engine) (workflow : Workflow) (record : Record) :
    Run Host (TriggerOutcome × Record) :=
  engine.processWorkflow workflow record .scheduled .detached

/-- What the run on a record counts in the surroundings. -/
def outcomeOn
    (engine : Engine) (workflow : Workflow) (host : Host) (record : Record) :
    TriggerOutcome :=
  match (process engine workflow record host).1 with
  | .value (outcome, _) => outcome
  | .panic => .zero

def contribution (outcome : TriggerOutcome) : TickResult where
  recordsChecked := 1
  recordsMatched := if 0 < outcome.workflowsMatched then 1 else 0
  actionsFailed := outcome.actionsFailed

def total : List TickResult → TickResult
  | [] => zero
  | result :: rest =>
    ⟨result.recordsChecked + (total rest).recordsChecked,
      result.recordsMatched + (total rest).recordsMatched,
      result.actionsFailed + (total rest).actionsFailed⟩

/-! ## What is counted -/

theorem add_eq_contribution (outcome : TriggerOutcome) :
    TickResult.add ⟨1, 0, 0⟩ outcome = contribution outcome := by
  simp [TickResult.add, contribution]

theorem total_perm
    {results others : List TickResult} (h : results.Perm others) :
    total results = total others := by
  induction h with
  | nil => rfl
  | cons result _ ih => simp only [total, ih]
  | swap first second rest => simp only [total, Nat.add_left_comm]
  | trans _ _ hfirst hsecond => exact hfirst.trans hsecond

theorem checked_total (outcomes : List TriggerOutcome) :
    (total (outcomes.map contribution)).recordsChecked = outcomes.length := by
  induction outcomes with
  | nil => rfl
  | cons outcome rest ih =>
      simp only [List.map_cons, List.length_cons, total, ih, contribution]
      omega

theorem matched_le_checked (outcomes : List TriggerOutcome) :
    (total (outcomes.map contribution)).recordsMatched ≤
      (total (outcomes.map contribution)).recordsChecked := by
  induction outcomes with
  | nil => exact Nat.le_refl 0
  | cons outcome rest ih =>
      simp only [List.map_cons, total, contribution] at ih ⊢
      split <;> omega

theorem foldl_add_eq (outcomes : List TriggerOutcome) (result : TickResult) :
    outcomes.foldl TickResult.add result =
      ⟨result.recordsChecked,
        result.recordsMatched +
          (total (outcomes.map contribution)).recordsMatched,
        result.actionsFailed +
          (total (outcomes.map contribution)).actionsFailed⟩ := by
  induction outcomes generalizing result with
  | nil => rfl
  | cons outcome rest ih =>
      rw [List.foldl_cons, ih]
      simp only [List.map_cons, total, contribution, TickResult.add,
        mk.injEq, true_and]
      constructor
      · split <;> omega
      · omega

theorem foldl_add_eq_total (outcomes : List TriggerOutcome) :
    outcomes.foldl TickResult.add ⟨outcomes.length, 0, 0⟩ =
      total (outcomes.map contribution) := by
  rw [foldl_add_eq]
  simp only [← checked_total, Nat.zero_add]

/-! ## One record after the other -/

section InTurn

variable {engine : Engine} {workflow : Workflow} {a b later : Host}
  {runs : List (Record × TriggerOutcome × Record)}

theorem process_abreast
    (engine : Engine) (record : Record)
    (h : Host.Abreast workflow.actions a b) :
    ∃ outcome written writtenOther later laterOther,
      process engine workflow record a = (.value (outcome, written), later) ∧
        process engine workflow record b =
          (.value (outcome, writtenOther), laterOther) ∧
        Host.EndAbreast record a b later laterOther ∧
        Host.Abreast workflow.actions a laterOther := by
  obtain ⟨outcome, written, writtenOther, later, laterOther, hrun, hrunOther,
    hends⟩ :=
    Engine.processWorkflow_abreast
      (show TriggerContext.detached.cancellable = false from rfl)
      workflow.activeActions_subset engine .scheduled record h
  obtain ⟨effects, hleads⟩ :=
    Engine.processWorkflow_leads engine workflow record .scheduled .detached b
  rw [hrunOther] at hleads
  exact ⟨outcome, written, writtenOther, later, laterOther, hrun, hrunOther,
    hends, h.of_leads (.refl a) hleads⟩

theorem runAll_inTurn
    (engine : Engine) (workflow : Workflow) (records : List Record)
    (result : TickResult) {host : Host} (hcalm : host.faults = .calm) :
    ∃ runs later,
      runs.map Prod.fst = records ∧
        Run.InTurn (process engine workflow) runs host later ∧
        runAll engine workflow result records host =
          (.value ((runs.map fun run => run.2.1).foldl TickResult.add result),
            later) := by
  induction records generalizing result host with
  | nil => exact ⟨[], host, rfl, rfl, rfl⟩
  | cons record rest ih =>
      obtain ⟨outcome, -, written, -, middle, -, hrun, -, hmiddle⟩ :=
        process_abreast engine record
          (Host.Abreast.refl workflow.actions hcalm)
      obtain ⟨runs, later, hruns, hturn, hrest⟩ :=
        ih (result.add outcome) hmiddle.akin.calmOther
      exact ⟨(record, outcome, written) :: runs, later, by simp [hruns],
        ⟨middle, hrun, hturn⟩, (Run.bind_of_value hrun _).trans hrest⟩

/-- Runs in turn come to what surroundings abreast with their beginning tell,
and touch nothing but their records. -/
theorem inTurn_abreast
    (h : Host.Abreast workflow.actions a b)
    (hturn : Run.InTurn (process engine workflow) runs b later) :
    (runs.map fun run => run.2.1) =
        (runs.map Prod.fst).map (outcomeOn engine workflow a) ∧
      Host.Abreast workflow.actions a later ∧
      Host.Touches (runs.map Prod.fst) b later := by
  -- `a` stays where it is, so what it tells of a record does not depend on how
  -- far the runs have come.
  induction runs generalizing b with
  | nil =>
      obtain rfl : later = b := hturn
      exact ⟨rfl, h, .refl later⟩
  | cons run rest ih =>
      obtain ⟨record, outcome, written⟩ := run
      obtain ⟨middle, hrun, hturn⟩ := hturn
      obtain ⟨told, _, _, _, _, halone, htold, hends, hmiddle⟩ :=
        process_abreast engine record h
      rw [hrun] at htold
      obtain ⟨⟨⟨rfl, rfl⟩⟩, rfl⟩ := htold
      obtain ⟨houtcomes, hlater, htouches⟩ := ih hmiddle hturn
      refine ⟨?_, hlater, hends.touches.trans htouches⟩
      have houtcome : outcomeOn engine workflow a record = outcome := by
        unfold outcomeOn
        rw [halone]
      simp only [List.map_cons, houtcomes, houtcome]

end InTurn

/-! ## A tick -/

section Tick

variable {engine : Engine} {workflow : Workflow} {id : Uuid} {host : Host}

/-- The surroundings when a tick has read its workflow and its records. -/
def reading (host : Host) : Host :=
  (host.counted .loadWorkflow).counted .loadRecords

theorem reading_abreast
    {actions : List Action} {a b : Host} (h : Host.Abreast actions a b) :
    Host.Abreast actions (reading a) (reading b) :=
  h.of_leads (.of_counters a _ _ _) (.of_counters b _ _ _)

/-- The workflow that a tick runs, if any: the first stored one of the identifier,
while it is active and scheduled. -/
def due? (id : Uuid) (host : Host) : Option Workflow :=
  (host.store.workflows.find? fun workflow => workflow.id = id).filter
    fun workflow => workflow.isActive ∧ workflow.triggerType = .scheduled

theorem filter_isDue (id : Uuid) (host : Host) :
    (host.store.workflow? id).filter isDue = due? id host := by
  have hdue :
      isDue = fun workflow =>
        decide (workflow.isActive ∧ workflow.triggerType = .scheduled) := by
    funext workflow
    rw [Bool.eq_iff_iff, decide_eq_true_iff]
    simp [isDue]
  rw [hdue]
  rfl

theorem loadWorkflow_of_calm
    (id : Uuid) (hcalm : host.faults = .calm) :
    (Host.loadWorkflow id).run host =
      (.value (.ok (host.store.workflow? id)),
        host.counted .loadWorkflow) := by
  rw [Host.loadWorkflow, Host.call_run_of_calm hcalm]
  rfl

theorem run_of_none
    (engine : Engine) (hcalm : host.faults = .calm)
    (hnone : due? id host = none) :
    (run engine id).run host =
      (.value (.ok zero), host.counted .loadWorkflow) := by
  refine (Run.bind_of_value (loadWorkflow_of_calm id hcalm) _).trans ?_
  simp only [ExceptT.bindCont, filter_isDue, hnone]
  rfl

theorem run_of_due
    (hcalm : host.faults = .calm) (hdue : due? id host = some workflow)
    {result : TickResult} {later : Host}
    (hrun : runAll engine workflow
      ⟨(host.records.ofType workflow.recordType).length, 0, 0⟩
      (host.records.ofType workflow.recordType) (reading host) =
        (.value result, later)) :
    (run engine id).run host = (.value (.ok result), later) := by
  refine (Run.bind_of_value (loadWorkflow_of_calm id hcalm) _).trans ?_
  simp only [ExceptT.bindCont, filter_isDue, hdue]
  have hload :
      (Host.loadRecords workflow.recordType).run (host.counted .loadWorkflow) =
        (.value (.ok (host.records.ofType workflow.recordType)),
          reading host) := by
    rw [Host.loadRecords, Host.call_run_of_calm
      (show (host.counted .loadWorkflow).faults = .calm from hcalm)]
    rfl
  refine (Run.bind_of_value hload _).trans ?_
  exact Run.bind_of_value hrun _

theorem run_inTurn
    (engine : Engine) (hcalm : host.faults = .calm)
    (hdue : due? id host = some workflow) :
    ∃ runs later,
      runs.map Prod.fst = host.records.ofType workflow.recordType ∧
        Run.InTurn (process engine workflow) runs (reading host) later ∧
        (run engine id).run host =
          (.value (.ok (total (runs.map fun run => contribution run.2.1))),
            later) := by
  obtain ⟨runs, later, heach, hturn, hrun⟩ :=
    runAll_inTurn engine workflow (host.records.ofType workflow.recordType)
      ⟨(host.records.ofType workflow.recordType).length, 0, 0⟩
      (show (reading host).faults = .calm from hcalm)
  refine ⟨runs, later, heach, hturn, ?_⟩
  rw [run_of_due hcalm hdue hrun, ← heach, List.length_map]
  have htotal := foldl_add_eq_total (runs.map fun run => run.2.1)
  rw [List.length_map, List.map_map] at htotal
  rw [htotal]
  rfl

end Tick

/-! ## Apart -/

/-- Surroundings in which the actions of a workflow come to the same, and which
hold one of its records alone. -/
structure HoldsAlone
    (workflow : Workflow) (id : Uuid) (host alone : Host) (record : Record) :
    Prop where
  abreast : Host.Abreast workflow.actions alone host
  stored : alone.store.workflow? id = host.store.workflow? id
  records : alone.records.ofType workflow.recordType = [record]
  saved : alone.store.saved? record.recordType record.id =
    host.store.saved? record.recordType record.id

/-- A tick told of the record, and saved of it, what one told and saved that
found the record alone. -/
structure AsAlone
    (record : Record) (alone host laterAlone later : Host) : Prop where
  logs : ∃ entries others,
    laterAlone.store.logs = alone.store.logs ++ entries ∧
      later.store.logs = host.store.logs ++ others ∧
      List.Forall₂ LogEntry.Alike entries
        (others.filter fun other => other.recordId == record.id)
  saved : later.store.saved? record.recordType record.id =
    laterAlone.store.saved? record.recordType record.id

/-- What a tick of the workflow came to: it went through the records one by one,
did with each what it would have done with that record alone, and in any other
order of the records it would have counted the same. -/
structure Apart
    (engine : Engine) (workflow : Workflow) (id : Uuid) (host later : Host)
    (runs : List (Record × TriggerOutcome × Record)) (result : TickResult) :
    Prop where
  each : runs.map Prod.fst = host.records.ofType workflow.recordType
  inTurn : Run.InTurn (process engine workflow) runs (reading host) later
  counts : result = total (runs.map fun run => contribution run.2.1)
  matched : result.recordsMatched ≤ result.recordsChecked
  alone : ∀ run ∈ runs, ∀ alone, HoldsAlone workflow id host alone run.1 →
    ∃ laterAlone,
      (TickResult.run engine id).run alone =
          (.value (.ok (contribution run.2.1)), laterAlone) ∧
        AsAlone run.1 alone host laterAlone later
  permuted : ∀ records, host.records.records.Perm records →
    ∃ laterOther,
      (TickResult.run engine id).run { host with records := ⟨records⟩ } =
        (.value (.ok result), laterOther)

section Apart

variable {engine : Engine} {workflow : Workflow} {id : Uuid}
  {host later : Host} {runs : List (Record × TriggerOutcome × Record)}

/-- A run on a record fares as one on the record alone, if those before and
after it are on other records. -/
theorem AsAlone.of_endAbreast
    {record : Record} {before after : List Record}
    {alone first second laterAlone : Host}
    (hends : Host.EndAbreast record alone first laterAlone second)
    (hbefore : Host.Touches before host first)
    (hafter : Host.Touches after second later)
    (hothers : ∀ other ∈ before ++ after, other.id ≠ record.id)
    (hsaved : alone.store.saved? record.recordType record.id =
      host.store.saved? record.recordType record.id) :
    AsAlone record alone host laterAlone later := by
  have hothersBefore : ∀ other ∈ before, other.id ≠ record.id :=
    fun other hmem => hothers other (List.mem_append_left _ hmem)
  have hothersAfter : ∀ other ∈ after, other.id ≠ record.id :=
    fun other hmem => hothers other (List.mem_append_right _ hmem)
  constructor
  · obtain ⟨entriesBefore, hlogsBefore, hnoneBefore⟩ :=
      hbefore.none_about hothersBefore
    obtain ⟨entriesAfter, hlogsAfter, hnoneAfter⟩ :=
      hafter.none_about hothersAfter
    obtain ⟨entries, others, hlogsAlone, hlogs, halike, hall⟩ := hends.logs
    refine ⟨entries, entriesBefore ++ others ++ entriesAfter, hlogsAlone, ?_,
      ?_⟩
    · rw [hlogsAfter, hlogs, hlogsBefore, List.append_assoc, List.append_assoc,
        List.append_assoc]
    · have habout :
          others.filter (fun other => other.recordId == record.id) = others :=
        List.filter_eq_self.mpr fun other hmem =>
          beq_iff_eq.mpr (hall other hmem).2
      rw [List.filter_append, List.filter_append, hnoneBefore, hnoneAfter,
        habout, List.nil_append, List.append_nil]
      exact halike
  · rw [hafter.saved?_eq hothersAfter]
    refine hends.saved?_eq ?_
    rw [hbefore.saved?_eq hothersBefore]
    exact hsaved

theorem alone_of_inTurn
    (hdue : due? id host = some workflow)
    (hnodup : (runs.map fun run => run.1.id).Nodup)
    (hturn : Run.InTurn (process engine workflow) runs (reading host) later)
    {run : Record × TriggerOutcome × Record} (hrun : run ∈ runs)
    {alone : Host} (halone : HoldsAlone workflow id host alone run.1) :
    ∃ laterAlone,
      (TickResult.run engine id).run alone =
          (.value (.ok (contribution run.2.1)), laterAlone) ∧
        AsAlone run.1 alone host laterAlone later := by
  obtain ⟨record, outcome, written⟩ := run
  obtain ⟨before, after, first, second, rfl, hbefore, hprocess, hafter⟩ :=
    hturn.split hrun
  -- The tick that finds the record alone stays abreast of the other one, which
  -- does before, on and after the record what these surroundings tell.
  obtain ⟨-, hfirst, htouchesBefore⟩ :=
    inTurn_abreast (reading_abreast halone.abreast) hbefore
  obtain ⟨told, _, _, laterAlone, _, hprocessAlone, htold, hends, hsecond⟩ :=
    process_abreast engine record hfirst
  rw [hprocess] at htold
  obtain ⟨⟨⟨rfl, rfl⟩⟩, rfl⟩ := htold
  obtain ⟨-, -, htouchesAfter⟩ := inTurn_abreast hsecond hafter
  have hothers : ∀ other ∈ before.map Prod.fst ++ after.map Prod.fst,
      other.id ≠ record.id := by
    rw [List.map_append, List.map_cons, List.nodup_middle, List.nodup_cons,
      ← List.map_append] at hnodup
    intro other hmem hid
    rw [← List.map_append] at hmem
    obtain ⟨run, hrun, rfl⟩ := List.mem_map.mp hmem
    exact hnodup.1 (List.mem_map.mpr ⟨run, hrun, hid⟩)
  have hfared :=
    AsAlone.of_endAbreast hends htouchesBefore htouchesAfter hothers
      halone.saved
  refine ⟨laterAlone, ?_, hfared.logs, hfared.saved⟩
  have hdueAlone : due? id alone = some workflow := by
    rw [← filter_isDue, halone.stored, filter_isDue]
    exact hdue
  refine run_of_due halone.abreast.akin.calm hdueAlone ?_
  rw [halone.records, ← add_eq_contribution]
  exact Run.bind_of_value hprocessAlone _

theorem holdsAlone_of_mem
    (id : Uuid) (hcalm : host.faults = .calm) {record : Record}
    (hmem : record ∈ host.records.ofType workflow.recordType) :
    HoldsAlone workflow id host { host with records := ⟨[record]⟩ } record where
  abreast := ⟨⟨hcalm, rfl⟩, rfl, rfl, fun _ _ => rfl⟩
  stored := rfl
  records := List.filter_eq_self.mpr fun other hother => by
    rw [List.mem_singleton.mp hother]
    exact (List.mem_filter.mp hmem).2
  saved := rfl

theorem permuted_of_inTurn
    (hcalm : host.faults = .calm) (hdue : due? id host = some workflow)
    (heach : runs.map Prod.fst = host.records.ofType workflow.recordType)
    (hturn : Run.InTurn (process engine workflow) runs (reading host) later)
    {records : List Record} (hperm : host.records.records.Perm records) :
    ∃ laterOther,
      (TickResult.run engine id).run { host with records := ⟨records⟩ } =
        (.value (.ok (total (runs.map fun run => contribution run.2.1))),
          laterOther) := by
  let other : Host := { host with records := ⟨records⟩ }
  have habreast : Host.Abreast workflow.actions host other :=
    ⟨⟨hcalm, rfl⟩, rfl, rfl, fun _ _ => rfl⟩
  have htype :
      (host.records.ofType workflow.recordType).Perm
        (other.records.ofType workflow.recordType) :=
    hperm.filter _
  obtain ⟨runsOther, laterOther, heachOther, hturnOther, hrunOther⟩ :=
    run_inTurn engine (show other.faults = .calm from hcalm) hdue
  obtain ⟨houtcomes, -, -⟩ :=
    inTurn_abreast (reading_abreast (.refl _ hcalm)) hturn
  obtain ⟨houtcomesOther, -, -⟩ :=
    inTurn_abreast (reading_abreast habreast) hturnOther
  rw [heach] at houtcomes
  rw [heachOther] at houtcomesOther
  have hcontributions :
      (runs.map fun run => contribution run.2.1).Perm
        (runsOther.map fun run => contribution run.2.1) := by
    have hmapped := (htype.map (outcomeOn engine workflow (reading host))).map
      contribution
    rw [← houtcomes, ← houtcomesOther, List.map_map, List.map_map] at hmapped
    exact hmapped
  exact ⟨laterOther, by rw [hrunOther, total_perm hcontributions]⟩

/-- A tick of a workflow that is not to be run changes nothing.  Any other tick
treats the records apart. -/
theorem tick_treats_records_apart
    (engine : Engine) (id : Uuid) (host : Host) (hcalm : host.faults = .calm) :
    (∀ workflow, due? id host = some workflow →
      ((host.records.ofType workflow.recordType).map Record.id).Nodup →
        ∃ runs result later,
          (TickResult.run engine id).run host = (.value (.ok result), later) ∧
            Apart engine workflow id host later runs result) ∧
      (due? id host = none →
        (TickResult.run engine id).run host =
          (.value (.ok zero), host.counted .loadWorkflow)) := by
  refine ⟨fun workflow hdue hnodup => ?_, run_of_none engine hcalm⟩
  obtain ⟨runs, later, heach, hturn, hrun⟩ := run_inTurn engine hcalm hdue
  rw [← heach, List.map_map] at hnodup
  have hmatched := matched_le_checked (runs.map fun run => run.2.1)
  rw [List.map_map] at hmatched
  exact ⟨runs, _, later, hrun,
    { each := heach
      inTurn := hturn
      counts := rfl
      matched := hmatched
      alone := fun run hmem alone halone =>
        alone_of_inTurn hdue hnodup hturn hmem halone
      permuted := fun records hperm =>
        permuted_of_inTurn hcalm hdue heach hturn hperm }⟩

end Apart

/-- Tells the tickets that are linked to a ticket about its status. -/
def sweep : Workflow :=
  (Workflow.ofName (.numbered 1) "Sweep" "Ticket" .scheduled).withRule
    ((Rule.ofName (.numbered 2) "Every ticket").withAction
      (.updateRelated (.numbered 3) "Ticket"
        [("ParentStatus", .string "{{Status}}")]))

def parent : Record := .ofFields "Ticket" "t-1" [("Status", .string "Open")]

def child : Record := .ofFields "Ticket" "t-2" [("ticket_id", .string "t-1")]

def withTickets (workflow : Workflow) (tickets : List Record) : Host :=
  { Host.ofWorkflows [workflow] ⟨300, 0⟩ with records := ⟨tickets⟩ }

/-- Both tickets fare as they would alone, and nothing is done when the workflow
has been switched off. -/
theorem tick_treats_records_apart_sweep :
    let host := withTickets sweep [parent, child]
    let idle := withTickets { sweep with isActive := false } [parent, child]
    (∃ result later,
        (run ⟨true⟩ sweep.id).run host = (.value (.ok result), later) ∧
          result.recordsChecked = 2 ∧
          ∀ ticket ∈ [parent, child],
            ∃ contributed laterAlone,
              (run ⟨true⟩ sweep.id).run (withTickets sweep [ticket]) =
                  (.value (.ok contributed), laterAlone) ∧
                AsAlone ticket (withTickets sweep [ticket]) host laterAlone
                  later) ∧
      (run ⟨true⟩ sweep.id).run idle =
        (.value (.ok zero), idle.counted .loadWorkflow) := by
  intro host idle
  obtain ⟨runs, result, later, hrun, hapart⟩ :=
    (tick_treats_records_apart ⟨true⟩ sweep.id host rfl).1 sweep rfl
      (by decide +kernel)
  have heach : runs.map Prod.fst = [parent, child] := hapart.each
  have hchecked : result.recordsChecked = 2 := by
    have hlength := congrArg List.length heach
    have hchecked := checked_total (runs.map fun run => run.2.1)
    rw [List.map_map, List.length_map] at hchecked
    rw [List.length_map] at hlength
    rw [hapart.counts]
    exact hchecked.trans hlength
  refine ⟨⟨result, later, hrun, hchecked, fun ticket hticket => ?_⟩,
    (tick_treats_records_apart ⟨true⟩ sweep.id idle rfl).2 rfl⟩
  have hstored : ticket ∈ host.records.ofType sweep.recordType := hticket
  rw [← heach] at hticket
  obtain ⟨run, hmem, rfl⟩ := List.mem_map.mp hticket
  exact ⟨_, hapart.alone run hmem (withTickets sweep [run.1])
    (holdsAlone_of_mem sweep.id rfl hstored)⟩

def toldOf (ticketId : String) (tickets : List Record) : List (Option String) :=
  let host := withTickets sweep tickets
  let later := ((run ⟨true⟩ sweep.id).run host).2
  (later.store.logs.filter fun entry => entry.recordId == ticketId).map
    LogEntry.details

/-- A tick tells of a ticket how many of the other tickets are linked to it. -/
theorem linked_tickets_counted :
    toldOf "t-1" [parent, child] =
        [some "Updated 1 Ticket records",
          some "1 of 1 actions succeeded (0 pending)",
          some "1 of 1 rules matched"] ∧
      toldOf "t-1" [parent] =
        [some "Updated 0 Ticket records",
          some "1 of 1 actions succeeded (0 pending)",
          some "1 of 1 rules matched"] := by
  decide +kernel

end TickResult

end RecordRules
