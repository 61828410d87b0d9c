import Mathlib.Data.List.Nodup
import Mathlib.Logic.Relation
import RecordRules.Jobs.Scheduler
import RecordRules.Proofs.HostEffects

/-!
# Cron jobs in step with the store

Syncs read the scheduled workflows and reconcile the cron jobs with what they
read, each at its own pace, while the store changes.  However they overlap,
every live job is registered and every registered job lives, with the schedule
that it was made from; and a reconciliation leaves a job for each workflow that
it had read whose schedule is valid, and no other.  A start of the scheduler is
such a sync as well.
-/

namespace RecordRules

/-! ## Schedules -/

theorem Text.length_wordsFrom (word cs : List Char) :
    (wordsFrom word cs).length =
      countWords (!word.isEmpty) cs + if word.isEmpty then 0 else 1 := by
  induction cs generalizing word with
  | nil => cases word <;> rfl
  | cons c rest ih =>
      by_cases hblank : isBlank c = true <;> cases word <;>
        simp [wordsFrom, countWords, hblank, ih]

theorem Text.length_words (s : String) : (words s).length = wordCount s := by
  rw [words, List.length_map, length_wordsFrom, wordCount]
  rfl

/-- The schedule under which a workflow is registered: without blanks at its
ends, and with a field for the seconds before five others. -/
def Workflow.cron? (workflow : Workflow) : Option String :=
  workflow.schedule.map fun raw =>
    if (Text.words (Text.trim raw)).length = 5 then "0 " ++ Text.trim raw
    else Text.trim raw

theorem Workflow.cron?_eq (workflow : Workflow) :
    workflow.cron? = workflow.schedule.map Cron.normalize := by
  simp only [cron?, Text.length_words]
  rfl

def Workflow.DistinctIds (workflows : List Workflow) : Prop :=
  (workflows.map Workflow.id).Nodup

instance (workflows : List Workflow) :
    Decidable (Workflow.DistinctIds workflows) :=
  inferInstanceAs (Decidable (workflows.map Workflow.id).Nodup)

/-- What runs by a schedule is active, of that trigger, and has one. -/
theorem WorkflowStore.scheduled_eq_filter (store : WorkflowStore) :
    store.scheduled =
      store.workflows.filter fun workflow =>
        workflow.isActive ∧ workflow.triggerType = .scheduled ∧
          workflow.schedule.isSome := by
  apply List.filter_congr
  intro workflow _
  rw [Bool.eq_iff_iff, decide_eq_true_iff]
  simp [Workflow.isScheduled, and_assoc]

namespace CronState

/-- Registered jobs and live jobs are the same, at most one for each
workflow. -/
structure Paired (state : CronState) : Prop where
  same : state.registry.Perm state.table.jobs
  onePerWorkflow : (state.registry.map CronJob.workflowId).Nodup
  distinctJobs : (state.table.jobs.map CronJob.jobId).Nodup

/-- The registry tells of exactly the workflows whose schedule is valid, each
with its schedule. -/
def Registers
    (isValid : String → Bool) (workflows : List Workflow)
    (state : CronState) : Prop :=
  ∀ id schedule,
    (∃ job ∈ state.registry, job.workflowId = id ∧ job.schedule = schedule) ↔
      (∃ workflow ∈ workflows,
        workflow.id = id ∧ workflow.cron? = some schedule) ∧
        isValid schedule = true

/-- The jobs of workflows whose schedule is still the same are kept. -/
def KeepsUnchanged
    (workflows : List Workflow) (before later : CronState) : Prop :=
  ∀ job ∈ before.registry,
    (∃ workflow ∈ workflows,
      workflow.id = job.workflowId ∧ workflow.cron? = some job.schedule) →
        job ∈ later.registry

/-- What syncs keep: the jobs are paired, of valid schedules, and the next
identifier is a new one. -/
structure InStep (isValid : String → Bool) (state : CronState) : Prop where
  paired : state.Paired
  fresh : ∀ job ∈ state.table.jobs, job.jobId < state.table.added
  valid : ∀ job ∈ state.registry, isValid job.schedule = true

theorem InStep.empty (isValid : String → Bool) : InStep isValid .empty where
  paired := ⟨.refl _, List.nodup_nil, List.nodup_nil⟩
  fresh := by simp [CronState.empty, CronTable.empty]
  valid := by simp [CronState.empty]

theorem InStep.tell
    {isValid : String → Bool} {state : CronState} (h : InStep isValid state)
    (notice : CronNotice) :
    InStep isValid (state.tell notice) where
  paired := ⟨h.paired.same, h.paired.onePerWorkflow, h.paired.distinctJobs⟩
  fresh := h.fresh
  valid := h.valid

/-! ## Wanted schedules -/

section Wanted

variable {workflows : List Workflow}

theorem exists_of_wanted?
    {id : Uuid} {schedule : String}
    (h : wanted? workflows id = some schedule) :
    ∃ workflow ∈ workflows,
      workflow.id = id ∧ workflow.cron? = some schedule := by
  obtain ⟨raw, hraw, hnormal⟩ := Option.map_eq_some_iff.mp h
  obtain ⟨workflow, hmem, hfound⟩ := List.exists_of_findSome?_eq_some hraw
  by_cases hid : workflow.id = id
  · rw [if_pos hid] at hfound
    refine ⟨workflow, List.mem_reverse.mp hmem, hid, ?_⟩
    rw [Workflow.cron?_eq, hfound, Option.map_some, hnormal]
  · rw [if_neg hid] at hfound
    simp at hfound

theorem wanted?_eq_some_iff
    (hdistinct : Workflow.DistinctIds workflows)
    {id : Uuid} {schedule : String} :
    wanted? workflows id = some schedule ↔
      ∃ workflow ∈ workflows,
        workflow.id = id ∧ workflow.cron? = some schedule := by
  refine ⟨exists_of_wanted?, ?_⟩
  rintro ⟨workflow, hmem, rfl, hcron⟩
  cases hwanted : wanted? workflows workflow.id with
  | none =>
      have hnone := Option.map_eq_none_iff.mp hwanted
      have hschedule :=
        List.findSome?_eq_none_iff.mp hnone workflow
          (List.mem_reverse.mpr hmem)
      rw [if_pos rfl] at hschedule
      simp [Workflow.cron?_eq, hschedule] at hcron
  | some found =>
      obtain ⟨other, hother, hid, hfound⟩ := exists_of_wanted? hwanted
      obtain rfl :=
        List.inj_on_of_nodup_map hdistinct hother hmem hid
      exact hfound.symm.trans hcron

end Wanted

/-! ## Unscheduling -/

section Unschedule

variable {isValid : String → Bool} {workflows : List Workflow}

theorem unschedule_never (state : CronState) (stale : List CronJob) :
    ∃ later,
      unschedule .never state stale = (true, later) ∧
        later.registry =
          (state.registry.filter fun job =>
            !stale.any fun gone => gone.workflowId == job.workflowId) ∧
        later.table.jobs =
          (state.table.jobs.filter fun job =>
            !stale.any fun gone => gone.jobId == job.jobId) ∧
        later.table.added = state.table.added := by
  induction stale generalizing state with
  | nil => exact ⟨state, rfl, by simp, by simp, rfl⟩
  | cons gone rest ih =>
      obtain ⟨later, hlater, hregistry, hjobs, hadded⟩ :=
        ih (tell
          { state with
            table := (state.table.remove .never gone.jobId).2
            registry := state.registry.filter fun other =>
              other.workflowId != gone.workflowId }
          (.unscheduled gone.workflowId gone.schedule))
      refine ⟨later, hlater, ?_, ?_, hadded⟩
      · rw [hregistry]
        simp only [tell, List.filter_filter, List.any_cons, Bool.not_or, bne,
          Bool.and_comm, Bool.beq_comm]
      · rw [hjobs]
        change
          ((state.table.jobs.filter fun job => job.jobId != gone.jobId).filter
            _) = _
        simp only [List.filter_filter, List.any_cons, Bool.not_or, bne,
          Bool.and_comm, Bool.beq_comm]

/-- Among entries that a key tells apart, those whose key is one of the stale
entries' are the stale entries. -/
theorem any_stale_eq
    {α : Type} [BEq α] [LawfulBEq α] {key : CronJob → α}
    {jobs : List CronJob} (hnodup : (jobs.map key).Nodup)
    (stale : CronJob → Bool) {job : CronJob} (hmem : job ∈ jobs) :
    ((jobs.filter stale).any fun gone => key gone == key job) = stale job := by
  rw [Bool.eq_iff_iff, List.any_eq_true]
  constructor
  · rintro ⟨gone, hgone, hkey⟩
    obtain ⟨hgone, hstale⟩ := List.mem_filter.mp hgone
    obtain rfl :=
      List.inj_on_of_nodup_map hnodup hgone hmem (eq_of_beq hkey)
    exact hstale
  · intro hstale
    exact ⟨job, List.mem_filter.mpr ⟨hmem, hstale⟩, beq_self_eq_true _⟩

theorem InStep.unschedule
    {state : CronState} (h : InStep isValid state)
    (workflows : List Workflow) :
    ∃ later,
      unschedule .never state (state.registry.filter (isStale workflows)) =
          (true, later) ∧
        later.registry =
          (state.registry.filter fun job => !isStale workflows job) ∧
        InStep isValid later := by
  obtain ⟨later, hlater, hregistry, hjobs, hadded⟩ :=
    unschedule_never state (state.registry.filter (isStale workflows))
  -- the registry is filtered by workflow and the cron table by job, which are
  -- the same filter since either tells the jobs apart
  have hsame := h.paired.same
  have hregistry' :
      later.registry =
        (state.registry.filter fun job => !isStale workflows job) := by
    rw [hregistry]
    refine List.filter_congr fun job hmem => ?_
    rw [any_stale_eq h.paired.onePerWorkflow _ hmem]
  have hjobs' :
      later.table.jobs =
        (state.table.jobs.filter fun job => !isStale workflows job) := by
    have hdistinct : (state.registry.map CronJob.jobId).Nodup :=
      (hsame.map CronJob.jobId).nodup_iff.mpr h.paired.distinctJobs
    rw [hjobs]
    refine List.filter_congr fun job hmem => ?_
    rw [any_stale_eq hdistinct _ (hsame.mem_iff.mpr hmem)]
  refine ⟨later, hlater, hregistry', ?_⟩
  exact
    { paired :=
        { same := by
            rw [hregistry', hjobs']
            exact hsame.filter _
          onePerWorkflow := by
            rw [hregistry']
            exact h.paired.onePerWorkflow.sublist
              (List.filter_sublist.map _)
          distinctJobs := by
            rw [hjobs']
            exact h.paired.distinctJobs.sublist (List.filter_sublist.map _) }
      fresh := fun job hmem => by
        rw [hjobs'] at hmem
        rw [hadded]
        exact h.fresh job (List.mem_of_mem_filter hmem)
      valid := fun job hmem => by
        rw [hregistry'] at hmem
        exact h.valid job (List.mem_of_mem_filter hmem) }

end Unschedule

/-! ## Scheduling -/

section Schedule

variable {isValid : String → Bool} {workflows : List Workflow}

/-- Every registered job is of the schedule that is wanted. -/
def Current (workflows : List Workflow) (state : CronState) : Prop :=
  ∀ job ∈ state.registry,
    wanted? workflows job.workflowId = some job.schedule

/-- A workflow whose wanted schedule is valid is registered. -/
def Covers
    (isValid : String → Bool) (workflows : List Workflow) (state : CronState)
    (workflow : Workflow) : Prop :=
  ∀ schedule, wanted? workflows workflow.id = some schedule →
    isValid schedule = true →
      ∃ job ∈ state.registry, job.workflowId = workflow.id

theorem Covers.mono
    {before later : CronState} {workflow : Workflow}
    (h : Covers isValid workflows before workflow)
    (hkept : ∀ job ∈ before.registry, job ∈ later.registry) :
    Covers isValid workflows later workflow := by
  intro schedule hwanted hvalid
  obtain ⟨job, hmem, hid⟩ := h schedule hwanted hvalid
  exact ⟨job, hkept job hmem, hid⟩

def withJob
    (state : CronState) (id : Uuid) (schedule : String) : CronState :=
  { state with
    table :=
      { jobs := state.table.jobs ++ [⟨state.table.added, id, schedule⟩]
        added := state.table.added + 1
        changes := state.table.changes + 1 }
    registry := state.registry ++ [⟨state.table.added, id, schedule⟩] }

theorem nodup_map_snoc
    {α : Type} {key : CronJob → α} {jobs : List CronJob} {job : CronJob}
    (hnodup : (jobs.map key).Nodup)
    (hnew : ∀ other ∈ jobs, key other ≠ key job) :
    ((jobs ++ [job]).map key).Nodup := by
  rw [List.map_append, List.map_singleton, ← List.concat_eq_append]
  refine hnodup.concat fun hmem => ?_
  obtain ⟨other, hother, hkey⟩ := List.mem_map.mp hmem
  exact hnew other hother hkey

theorem InStep.withJob
    {state : CronState} (h : InStep isValid state) {id : Uuid}
    {schedule : String} (hvalid : isValid schedule = true)
    (hnew : ∀ job ∈ state.registry, job.workflowId ≠ id) :
    InStep isValid (state.withJob id schedule) where
  paired :=
    { same := h.paired.same.append_right _
      onePerWorkflow := nodup_map_snoc h.paired.onePerWorkflow hnew
      distinctJobs := nodup_map_snoc h.paired.distinctJobs fun job hmem =>
        Nat.ne_of_lt (h.fresh job hmem) }
  fresh := fun job hmem => by
    rcases List.mem_append.mp hmem with hmem | hmem
    · exact Nat.lt_succ_of_lt (h.fresh job hmem)
    · obtain rfl := List.mem_singleton.mp hmem
      exact Nat.lt_succ_self _
  valid := fun job hmem => by
    rcases List.mem_append.mp hmem with hmem | hmem
    · exact h.valid job hmem
    · obtain rfl := List.mem_singleton.mp hmem
      exact hvalid

/-- Nothing leaves the registry, and a workflow whose wanted schedule is valid
gets into it. -/
theorem scheduleOne_covers (state : CronState) (workflow : Workflow) :
    ∃ later,
      scheduleOne isValid .never workflows workflow state = (true, later) ∧
        (∀ job ∈ state.registry, job ∈ later.registry) ∧
        Covers isValid workflows later workflow := by
  unfold scheduleOne
  cases hwanted : wanted? workflows workflow.id with
  | none =>
      refine ⟨state, rfl, fun _ => id, fun schedule hschedule => ?_⟩
      simp [hwanted] at hschedule
  | some schedule =>
      dsimp only
      split
      · rename_i hregistered
        obtain ⟨job, hmem, hid⟩ := List.any_eq_true.mp hregistered
        exact ⟨state, rfl, fun _ => id,
          fun _ _ _ => ⟨job, hmem, eq_of_beq hid⟩⟩
      split
      · exact ⟨(state.withJob workflow.id schedule).tell _, rfl,
          fun job hmem => List.mem_append_left _ hmem,
          fun _ _ _ =>
            ⟨_, List.mem_append_right _ (List.mem_singleton.mpr rfl), rfl⟩⟩
      · rename_i hinvalid
        refine ⟨state.tell _, rfl, fun _ => id, fun other hother hvalid => ?_⟩
        obtain rfl := Option.some.inj (hwanted.symm.trans hother)
        exact absurd hvalid hinvalid

theorem scheduleAll_covers
    (isValid : String → Bool) (state : CronState) (rest : List Workflow) :
    ∃ later,
      scheduleAll isValid .never workflows state rest = (true, later) ∧
        (∀ job ∈ state.registry, job ∈ later.registry) ∧
        ∀ workflow ∈ rest, Covers isValid workflows later workflow := by
  -- along the list nothing leaves the registry, so what is covered stays so
  induction rest generalizing state with
  | nil => exact ⟨state, rfl, fun _ => id, by simp⟩
  | cons workflow rest ih =>
      obtain ⟨middle, hfirst, hkept, hcovers⟩ :=
        scheduleOne_covers state workflow
      obtain ⟨later, hrest, hkeptRest, hcoversRest⟩ := ih middle
      refine ⟨later, ?_, fun job hmem => hkeptRest job (hkept job hmem), ?_⟩
      · rw [scheduleAll, hfirst]
        exact hrest
      · intro other hmem
        rcases List.mem_cons.mp hmem with rfl | hmem
        · exact hcovers.mono hkeptRest
        · exact hcoversRest other hmem

theorem InStep.scheduleOne
    {state : CronState} (h : InStep isValid state)
    (hcurrent : Current workflows state) (workflow : Workflow) :
    InStep isValid
        (CronState.scheduleOne isValid .never workflows workflow state).2 ∧
      Current workflows
        (CronState.scheduleOne isValid .never workflows workflow state).2 := by
  unfold CronState.scheduleOne
  cases hwanted : wanted? workflows workflow.id with
  | none => exact ⟨h, hcurrent⟩
  | some schedule =>
      dsimp only
      split
      · exact ⟨h, hcurrent⟩
      rename_i hunregistered
      have hnew : ∀ job ∈ state.registry, job.workflowId ≠ workflow.id := by
        simpa using hunregistered
      split
      · rename_i hvalid
        refine ⟨(h.withJob hvalid hnew).tell _, fun job hmem => ?_⟩
        rcases List.mem_append.mp hmem with hmem | hmem
        · exact hcurrent job hmem
        · obtain rfl := List.mem_singleton.mp hmem
          exact hwanted
      · exact ⟨h.tell _, hcurrent⟩

theorem InStep.scheduleAll
    {state : CronState} (h : InStep isValid state)
    (hcurrent : Current workflows state) (rest : List Workflow) :
    InStep isValid
        (CronState.scheduleAll isValid .never workflows state rest).2 ∧
      Current workflows
        (CronState.scheduleAll isValid .never workflows state rest).2 := by
  induction rest generalizing state with
  | nil => exact ⟨h, hcurrent⟩
  | cons workflow rest ih =>
      obtain ⟨hstep, hcurrentNext⟩ := h.scheduleOne hcurrent workflow
      rw [CronState.scheduleAll]
      split
      · rename_i later hlater
        rw [hlater] at hstep hcurrentNext
        exact ⟨hstep, hcurrentNext⟩
      · rename_i later hlater
        rw [hlater] at hstep hcurrentNext
        exact ih hstep hcurrentNext

end Schedule

/-! ## One reconciliation -/

section Reconcile

variable {isValid : String → Bool} {workflows : List Workflow}

/-- What a reconciliation comes to, with the workflows that were read. -/
structure Reconciled
    (isValid : String → Bool) (workflows : List Workflow)
    (before : CronState) (ended : Bool × CronState) : Prop where
  done : ended.1 = true
  inStep : InStep isValid ended.2
  registers : Registers isValid workflows ended.2
  keeps : KeepsUnchanged workflows before ended.2

theorem registers_of_current
    {state : CronState} (hdistinct : Workflow.DistinctIds workflows)
    (h : InStep isValid state) (hcurrent : Current workflows state)
    (hcovers : ∀ workflow ∈ workflows,
      Covers isValid workflows state workflow) :
    Registers isValid workflows state := by
  intro id schedule
  constructor
  · rintro ⟨job, hmem, rfl, rfl⟩
    exact ⟨exists_of_wanted? (hcurrent job hmem), h.valid job hmem⟩
  · rintro ⟨⟨workflow, hmem, rfl, hcron⟩, hvalid⟩
    have hwanted : wanted? workflows workflow.id = some schedule :=
      (wanted?_eq_some_iff hdistinct).mpr ⟨workflow, hmem, rfl, hcron⟩
    obtain ⟨job, hjob, hid⟩ := hcovers workflow hmem schedule hwanted hvalid
    refine ⟨job, hjob, hid, ?_⟩
    have hjobWanted := hcurrent job hjob
    rw [hid, hwanted] at hjobWanted
    exact (Option.some.inj hjobWanted).symm

theorem InStep.reconcile
    {state : CronState} (h : InStep isValid state)
    (hdistinct : Workflow.DistinctIds workflows) :
    Reconciled isValid workflows state
      (reconcile isValid .never workflows state) := by
  obtain ⟨middle, hmiddle, hregistry, hstep⟩ :=
    h.unschedule workflows
  -- what is left is not stale, so the loop over the workflows only has to add
  have hcurrent : Current workflows middle := by
    intro job hmem
    rw [hregistry] at hmem
    simpa [isStale] using (List.mem_filter.mp hmem).2
  obtain ⟨later, hlater, hkept, hcovers⟩ :=
    scheduleAll_covers isValid middle workflows
  obtain ⟨hstepLater, hcurrentLater⟩ := hstep.scheduleAll hcurrent workflows
  rw [hlater] at hstepLater hcurrentLater
  have hended :
      CronState.reconcile isValid .never workflows state =
        (true, later.tell (.registered later.registry.length)) := by
    rw [CronState.reconcile, hmiddle]
    dsimp only
    rw [hlater]
  have hregisters : Registers isValid workflows later :=
    registers_of_current hdistinct hstepLater hcurrentLater hcovers
  rw [hended]
  exact
    { done := rfl
      inStep := hstepLater.tell _
      registers := hregisters
      keeps := fun job hmem hwanted => by
        refine hkept job ?_
        rw [hregistry]
        refine List.mem_filter.mpr ⟨hmem, ?_⟩
        simp [isStale, (wanted?_eq_some_iff hdistinct).mpr hwanted] }

end Reconcile

end CronState

/-! ## One sync of the scheduler -/

namespace JobScheduler

open CronState (InStep Registers KeepsUnchanged Reconciled)

variable {isValid : String → Bool} {scheduler : JobScheduler}
  {workflows : List Workflow}

/-- A sync leaves in the scheduler what its reconciliation comes to. -/
theorem sync_reconciled
    (h : InStep isValid scheduler.cron)
    (hdistinct : Workflow.DistinctIds workflows) :
    Reconciled isValid workflows scheduler.cron
      ((scheduler.sync isValid .never workflows).1,
        (scheduler.sync isValid .never workflows).2.cron) := by
  have hquiet : InStep isValid { scheduler.cron with notices := [] } :=
    ⟨⟨h.paired.same, h.paired.onePerWorkflow, h.paired.distinctJobs⟩, h.fresh,
      h.valid⟩
  obtain ⟨hdone, hinStep, hregisters, hkeeps⟩ := hquiet.reconcile hdistinct
  exact ⟨hdone, hinStep, hregisters, hkeeps⟩

/-- A start syncs, and is refused only afterwards, when there was one before. -/
theorem startWith_of_sync
    (hdone : (scheduler.sync isValid .never workflows).1 = true) :
    (scheduler.startWith isValid .never workflows).1 =
        (if scheduler.started then .error .alreadyStarted else .ok ()) ∧
      (scheduler.startWith isValid .never workflows).2.cron =
        (scheduler.sync isValid .never workflows).2.cron ∧
      (scheduler.startWith isValid .never workflows).2.started = true := by
  have hstarted :
      (scheduler.sync isValid .never workflows).2.started =
        scheduler.started := rfl
  rw [startWith]
  rcases hsync : scheduler.sync isValid .never workflows with ⟨done, synced⟩
  rw [hsync] at hdone hstarted
  obtain rfl : done = true := hdone
  change synced.started = scheduler.started at hstarted
  cases hcase : scheduler.started <;>
    simp [tell, hstarted, hcase]

end JobScheduler

/-! ## Syncs that overlap -/

/-- The surroundings with the store, what each sync under way has read, and the
scheduler with its cron jobs. -/
structure SyncState where
  host : Host
  underWay : List (List Workflow)
  scheduler : JobScheduler

namespace SyncState

open CronState (Paired InStep Registers KeepsUnchanged)

def start (config : EngineConfig) (host : Host) : SyncState :=
  ⟨host, [], .ofConfig config⟩

/-- One thing that happens while changes of the cron table are not refused. -/
inductive Step (isValid : String → Bool) : SyncState → SyncState → Prop
  /-- The store changes in any way. -/
  | edited (state : SyncState) (host : Host) :
      Workflow.DistinctIds host.store.scheduled →
        Step isValid state { state with host }
  /-- A sync reads the store. -/
  | read (state : SyncState) (workflows : List Workflow) (host : Host) :
      Host.scheduledWorkflows.run state.host =
          (.value (.ok workflows), host) →
        Step isValid state
          { state with host, underWay := state.underWay ++ [workflows] }
  /-- A sync cannot read the store, and ends with it. -/
  | unread (state : SyncState) (host : Host) :
      (Host.scheduledWorkflows.run state.host).2 = host →
        Step isValid state { state with host }
  /-- A sync reconciles the jobs with what it has read. -/
  | reconciled
      (state : SyncState) (workflows : List Workflow)
      (before after : List (List Workflow)) :
      state.underWay = before ++ workflows :: after →
        Step isValid state
          { state with
            underWay := before ++ after
            scheduler :=
              (state.scheduler.sync isValid .never workflows).2 }
  /-- The sync of a start does, and the start ends. -/
  | started
      (state : SyncState) (workflows : List Workflow)
      (before after : List (List Workflow)) :
      state.underWay = before ++ workflows :: after →
        Step isValid state
          { state with
            underWay := before ++ after
            scheduler :=
              (state.scheduler.startWith isValid .never workflows).2 }

theorem scheduledWorkflows_reads (host : Host) :
    (Host.scheduledWorkflows.run host).2.store = host.store ∧
      ∀ workflows,
        (Host.scheduledWorkflows.run host).1 = .value (.ok workflows) →
          workflows = host.store.scheduled := by
  obtain ⟨started, ⟨_, _, _, rfl⟩, hcall⟩ :=
    Host.call_run_cases .scheduledWorkflows
      (Host.look fun host => host.store.scheduled) host
  unfold Host.scheduledWorkflows
  rcases hcall with hcall | ⟨-, hcall⟩ | ⟨-, hcall⟩
  · rw [hcall]
    refine ⟨rfl, fun workflows hworkflows => ?_⟩
    exact (Except.ok.inj (Ending.value.inj hworkflows)).symm
  · rw [hcall]
    exact ⟨rfl, by simp⟩
  · rw [hcall]
    exact ⟨rfl, by simp⟩

/-- What every step keeps. -/
structure Sound (isValid : String → Bool) (state : SyncState) : Prop where
  store : Workflow.DistinctIds state.host.store.scheduled
  underWay : ∀ workflows ∈ state.underWay, Workflow.DistinctIds workflows
  cron : InStep isValid state.scheduler.cron

theorem Sound.start
    (isValid : String → Bool) (config : EngineConfig) {host : Host}
    (hdistinct : Workflow.DistinctIds host.store.scheduled) :
    Sound isValid (start config host) where
  store := hdistinct
  underWay := by simp [SyncState.start]
  cron := CronState.InStep.empty isValid

variable {isValid : String → Bool} {state later : SyncState}

/-- A sync under way that ends leaves the others under way. -/
theorem Sound.ended
    (h : Sound isValid state) {workflows : List Workflow}
    {before after : List (List Workflow)}
    (hunderWay : state.underWay = before ++ workflows :: after) :
    Workflow.DistinctIds workflows ∧
      ∀ other ∈ before ++ after, Workflow.DistinctIds other := by
  have hdistinct : ∀ other ∈ before ++ workflows :: after,
      Workflow.DistinctIds other := by
    rw [← hunderWay]
    exact h.underWay
  refine ⟨hdistinct workflows (by simp), fun other hmem => hdistinct other ?_⟩
  rcases List.mem_append.mp hmem with hmem | hmem
  · exact List.mem_append_left _ hmem
  · exact List.mem_append_right _ (List.mem_cons_of_mem _ hmem)

theorem Sound.step
    (h : Sound isValid state) (hstep : Step isValid state later) :
    Sound isValid later := by
  cases hstep with
  | edited host hdistinct => exact ⟨hdistinct, h.underWay, h.cron⟩
  | read workflows host hread =>
      obtain ⟨hstore, hread'⟩ := scheduledWorkflows_reads state.host
      rw [hread] at hstore hread'
      obtain rfl := hread' workflows rfl
      refine ⟨?_, ?_, h.cron⟩
      · change Workflow.DistinctIds host.store.scheduled
        rw [hstore]
        exact h.store
      · intro other hmem
        rcases List.mem_append.mp hmem with hmem | hmem
        · exact h.underWay other hmem
        · rw [List.mem_singleton.mp hmem]
          exact h.store
  | unread host hread =>
      refine ⟨?_, h.underWay, h.cron⟩
      change Workflow.DistinctIds host.store.scheduled
      rw [← hread, (scheduledWorkflows_reads state.host).1]
      exact h.store
  | reconciled workflows before after hunderWay =>
      obtain ⟨hworkflows, hothers⟩ := h.ended hunderWay
      exact ⟨h.store, hothers,
        (JobScheduler.sync_reconciled h.cron hworkflows).inStep⟩
  | started workflows before after hunderWay =>
      obtain ⟨hworkflows, hothers⟩ := h.ended hunderWay
      have hsynced := JobScheduler.sync_reconciled h.cron hworkflows
      refine ⟨h.store, hothers, ?_⟩
      rw [(JobScheduler.startWith_of_sync hsynced.done).2.1]
      exact hsynced.inStep

theorem Sound.steps
    (h : Sound isValid state)
    (hsteps : Relation.ReflTransGen (Step isValid) state later) :
    Sound isValid later := by
  induction hsteps with
  | refl => exact h
  | tail _ hstep ih => exact ih.step hstep

theorem startOn_of_unread
    (isValid : String → Bool) (refuses : CronRefusals)
    (scheduler : JobScheduler) {host : Host}
    (hunread : ∀ workflows,
      (Host.scheduledWorkflows.run host).1 ≠ .value (.ok workflows)) :
    (∀ reply started later,
      scheduler.startOn isValid refuses host =
          (.value (reply, started), later) →
        started.cron = scheduler.cron) ∧
      (scheduler.startOn isValid refuses host).2.store = host.store := by
  have hstore := (scheduledWorkflows_reads host).1
  unfold JobScheduler.startOn
  dsimp only
  split
  · exact ⟨by rintro reply started later ⟨⟩; rfl, rfl⟩
  · rcases hread : Host.scheduledWorkflows.run host with
      ⟨(error | workflows) | _, later⟩
    · rw [hread] at hstore
      rw [Run.bind_of_value hread]
      exact ⟨by rintro reply started later ⟨⟩; rfl, hstore⟩
    · rw [hread] at hunread
      exact absurd rfl (hunread workflows)
    · rw [hread] at hstore
      rw [Run.bind_of_panic hread]
      exact ⟨by rintro reply started later ⟨⟩, hstore⟩

/-- A start that reads the store goes on with what it has read. -/
theorem startOn_of_read
    (isValid : String → Bool) (refuses : CronRefusals)
    {scheduler : JobScheduler} {host later : Host} {workflows : List Workflow}
    (hinterval : scheduler.config.delayedPollIntervalSecs ≠ 0)
    (hread :
      Host.scheduledWorkflows.run host = (.value (.ok workflows), later)) :
    ∃ told,
      scheduler.startOn isValid refuses host =
        (.value
          (JobScheduler.startWith isValid refuses workflows
            { scheduler with told }),
          later) := by
  unfold JobScheduler.startOn
  dsimp only
  rw [if_neg hinterval, Run.bind_of_value hread]
  exact ⟨_, rfl⟩

/-- However syncs overlap while the store changes, the live jobs are the
registered ones, at most one for each workflow.  The next sync, with whatever
was read under way, succeeds, registers exactly those workflows whose schedule
is valid, and keeps the jobs of those whose schedule is the same; so does a
start, with the workflows that are active and have a schedule.  One that cannot
read the store changes nothing. -/
theorem syncs_stay_in_step
    (isValid : String → Bool) (config : EngineConfig) (host : Host)
    (hdistinct : Workflow.DistinctIds host.store.scheduled)
    (state : SyncState)
    (hsteps : Relation.ReflTransGen (Step isValid) (start config host) state) :
    state.scheduler.cron.Paired ∧
      (∀ workflows ∈ state.underWay,
        let synced := state.scheduler.sync isValid .never workflows
        synced.1 = true ∧
          synced.2.cron.Paired ∧
          Registers isValid workflows synced.2.cron ∧
          KeepsUnchanged workflows state.scheduler.cron synced.2.cron) ∧
      (∀ workflows later,
        state.scheduler.config.delayedPollIntervalSecs ≠ 0 →
        Host.scheduledWorkflows.run state.host =
          (.value (.ok workflows), later) →
        workflows =
            (state.host.store.workflows.filter fun workflow =>
              workflow.isActive ∧ workflow.triggerType = .scheduled ∧
                workflow.schedule.isSome) ∧
          ∃ started,
            state.scheduler.startOn isValid .never state.host =
                (.value
                  (if state.scheduler.started then .error .alreadyStarted
                    else .ok (), started), later) ∧
              started.started = true ∧
              started.cron.Paired ∧
              Registers isValid workflows started.cron ∧
              KeepsUnchanged workflows state.scheduler.cron started.cron) ∧
      ((∀ workflows,
          (Host.scheduledWorkflows.run state.host).1 ≠
            .value (.ok workflows)) →
        ∀ refuses (scheduler : JobScheduler) reply started later,
          scheduler.startOn isValid refuses state.host =
              (.value (reply, started), later) →
            started.cron = scheduler.cron ∧
              later.store = state.host.store) := by
  have hsound := (Sound.start isValid config hdistinct).steps hsteps
  refine ⟨hsound.cron.paired, fun workflows hmem => ?_,
    fun workflows later hinterval hread => ?_,
    fun hunread refuses scheduler reply started later hstart => ?_⟩
  · have hsynced :=
      JobScheduler.sync_reconciled hsound.cron (hsound.underWay workflows hmem)
    exact ⟨hsynced.done, hsynced.inStep.paired, hsynced.registers,
      hsynced.keeps⟩
  · have hstored := (scheduledWorkflows_reads state.host).2 workflows
    rw [hread] at hstored
    have hworkflows : Workflow.DistinctIds workflows := by
      rw [hstored rfl]
      exact hsound.store
    have hread' := (hstored rfl).trans state.host.store.scheduled_eq_filter
    obtain ⟨told, hstart⟩ := startOn_of_read isValid .never hinterval hread
    let scheduler : JobScheduler := { state.scheduler with told }
    have hcron : InStep isValid scheduler.cron := hsound.cron
    have hsynced := JobScheduler.sync_reconciled hcron hworkflows
    obtain ⟨hreply, hended, hstarted⟩ :=
      JobScheduler.startWith_of_sync hsynced.done
    refine ⟨hread', (scheduler.startWith isValid .never workflows).2, ?_,
      hstarted, ?_⟩
    · rw [hstart, ← hreply]
    · rw [hended]
      exact ⟨hsynced.inStep.paired, hsynced.registers, hsynced.keeps⟩
  · obtain ⟨hcron, hstore⟩ :=
      startOn_of_unread isValid refuses scheduler hunread
    rw [hstart] at hstore
    exact ⟨hcron reply started later hstart, hstore⟩

def digest (cron : String) : Workflow :=
  { Workflow.ofName (.numbered 1) "Digest" "Ticket" .scheduled with
    schedule := some cron }

def calmStore (cron : String) : Host := .ofWorkflows [digest cron] ⟨0, 0⟩

/-- The scheduler, started on an early digest. -/
def startedEarly : JobScheduler :=
  ((JobScheduler.ofConfig .standard).startWith Cron.isValid .never
    [digest "0 6 * * Mon"]).2

/-- It has synced since with a digest every quarter of an hour, whose schedule
begins with the seconds. -/
def quarterly : JobScheduler :=
  (startedEarly.sync Cron.isValid .never [digest " 0 */15 * * * * "]).2

theorem steps_quarterly :
    Relation.ReflTransGen (Step Cron.isValid)
      (start .standard (calmStore "0 6 * * Mon"))
      ⟨calmStore "*/15 * * * *", [[digest "0 6 * * Mon"]], quarterly⟩ := by
  let old := digest "0 6 * * Mon"
  let new := digest " 0 */15 * * * * "
  let once := (Host.scheduledWorkflows.run (calmStore "0 6 * * Mon")).2
  let twice := (Host.scheduledWorkflows.run once).2
  let edited := calmStore " 0 */15 * * * * "
  let again := (Host.scheduledWorkflows.run edited).2
  exact .tail (.tail (.tail (.tail (.tail (.tail (.tail .refl
    (.read _ [old] once rfl))
    (.read _ [old] twice rfl))
    (.started _ [old] [] [[old]] rfl))
    (.edited _ edited (by decide)))
    (.read _ [new] again rfl))
    (.reconciled _ [new] [[old]] [] rfl))
    (.edited _ (calmStore "*/15 * * * *") (by decide))

theorem registry_quarterly :
    quarterly.started = true ∧
      quarterly.cron.registry = [⟨1, (digest "").id, "0 */15 * * * *"⟩] ∧
      (quarterly.sync Cron.isValid .never
          [digest "0 6 * * Mon"]).2.cron.registry =
        [⟨2, (digest "").id, "0 0 6 * * Mon"⟩] ∧
      ((quarterly.start .never (calmStore "*/15 * * * *")).1.map fun ended =>
          ended.2.cron.registry) =
        .value quarterly.cron.registry := by
  decide +kernel

/-- A slow sync has read the early digest, but meanwhile the digest has changed
and another sync has registered its new schedule.  The slow one brings the early
digest back under a new job.  A further start, which is refused in the end, reads
the new schedule without its seconds, and keeps its job. -/
theorem syncs_stay_in_step_digest :
    ∃ state : SyncState,
      Relation.ReflTransGen (Step Cron.isValid)
          (start .standard (calmStore "0 6 * * Mon")) state ∧
        state.underWay = [[digest "0 6 * * Mon"]] ∧
        state.scheduler.started = true ∧
        state.scheduler.cron.registry =
          [⟨1, (digest "").id, "0 */15 * * * *"⟩] ∧
        state.scheduler.cron.Paired ∧
        (∃ synced,
          state.scheduler.sync Cron.isValid .never [digest "0 6 * * Mon"] =
              (true, synced) ∧
            synced.cron.registry = [⟨2, (digest "").id, "0 0 6 * * Mon"⟩] ∧
            synced.cron.Paired ∧
            Registers Cron.isValid [digest "0 6 * * Mon"] synced.cron) ∧
        ∃ started later,
          state.scheduler.start .never state.host =
              (.value (.error .alreadyStarted, started), later) ∧
            started.cron.registry = state.scheduler.cron.registry ∧
            started.cron.Paired ∧
            Registers Cron.isValid [digest "*/15 * * * *"] started.cron ∧
            KeepsUnchanged [digest "*/15 * * * *"] state.scheduler.cron
              started.cron := by
  obtain ⟨hstarted, hregistry, hslow, hsame⟩ := registry_quarterly
  obtain ⟨hpaired, hsynced, hstarts, -⟩ :=
    syncs_stay_in_step Cron.isValid .standard (calmStore "0 6 * * Mon")
      (by decide) _ steps_quarterly
  obtain ⟨hdone, hpairedSlow, hregistersSlow, -⟩ :=
    hsynced [digest "0 6 * * Mon"] (by simp)
  obtain ⟨-, started, hstart, -, hpairedStart, hregistersStart, hkeeps⟩ :=
    hstarts [digest "*/15 * * * *"]
      (Host.scheduledWorkflows.run (calmStore "*/15 * * * *")).2 (by decide) rfl
  rw [if_pos hstarted] at hstart
  rw [JobScheduler.start, hstart] at hsame
  exact ⟨_, steps_quarterly, rfl, hstarted, hregistry, hpaired,
    ⟨_, Prod.ext hdone rfl, hslow, hpairedSlow, hregistersSlow⟩, started, _,
    hstart, Ending.value.inj hsame, hpairedStart, hregistersStart, hkeeps⟩

end SyncState

end RecordRules
