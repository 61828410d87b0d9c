import RecordRules.Proofs.CronReconciliation

/-!
# Reconciliations that the cron table refuses

A job leaves the registry before it is removed from the cron table, and enters
it after it has been added.  So a reconciliation that ends because adding is
refused leaves jobs and registry paired, while one that ends because removing is
refused leaves an orphan: a live job that no later reconciliation removes.
-/

namespace RecordRules
namespace CronState

/-- The live jobs are the registered ones, at most one for each workflow, and
the orphans, which no workflow is registered with. -/
structure Accounts (orphans : List CronJob) (state : CronState) : Prop where
  same : (orphans ++ state.registry).Perm state.table.jobs
  onePerWorkflow : (state.registry.map CronJob.workflowId).Nodup
  distinctJobs : (state.table.jobs.map CronJob.jobId).Nodup
  fresh : ∀ job ∈ state.table.jobs, job.jobId < state.table.added

def afterRounds
    (isValid : String → Bool) (state : CronState)
    (rounds : List (CronRefusals × List Workflow)) : CronState :=
  rounds.foldl
    (fun state round => (reconcile isValid round.1 round.2 state).2) state

section Accounts

variable {orphans : List CronJob} {state : CronState} {job : CronJob}

theorem accounts_nil_iff :
    Accounts [] state ↔
      state.Paired ∧ ∀ job ∈ state.table.jobs, job.jobId < state.table.added :=
  ⟨fun h => ⟨⟨h.same, h.onePerWorkflow, h.distinctJobs⟩, h.fresh⟩,
    fun h => ⟨h.1.same, h.1.onePerWorkflow, h.1.distinctJobs, h.2⟩⟩

theorem Accounts.lives (h : Accounts orphans state) (hjob : job ∈ orphans) :
    job ∈ state.table.jobs :=
  h.same.subset (List.mem_append_left _ hjob)

theorem Accounts.registered_lives
    (h : Accounts orphans state) (hjob : job ∈ state.registry) :
    job ∈ state.table.jobs :=
  h.same.subset (List.mem_append_right _ hjob)

theorem Accounts.unregistered
    (h : Accounts orphans state) (hjob : job ∈ orphans) :
    job ∉ state.registry := by
  have hnodup : (orphans ++ state.registry).Nodup :=
    h.same.nodup_iff.mpr (.of_map _ h.distinctJobs)
  exact List.disjoint_of_nodup_append hnodup hjob

theorem Accounts.tell (h : Accounts orphans state) (notice : CronNotice) :
    Accounts orphans (state.tell notice) :=
  ⟨h.same, h.onePerWorkflow, h.distinctJobs, h.fresh⟩

theorem filter_ne_eq_erase
    {α : Type} [BEq α] [LawfulBEq α] {key : CronJob → α}
    {jobs : List CronJob} (hnodup : (jobs.map key).Nodup) (hmem : job ∈ jobs) :
    (jobs.filter fun other => key other != key job) = jobs.erase job := by
  rw [(List.Nodup.of_map key hnodup).erase_eq_filter]
  refine List.filter_congr fun other hother => ?_
  by_cases hsame : other = job
  · simp [hsame]
  · have hkey : key other ≠ key job := fun hkey =>
      hsame (List.inj_on_of_nodup_map hnodup hother hmem hkey)
    rw [bne_iff_ne.mpr hkey, bne_iff_ne.mpr hsame]

end Accounts

/-! ## Unscheduling -/

section Unschedule

variable {orphans : List CronJob} {refuses : CronRefusals}
  {state : CronState} {job : CronJob}

/-- The state when the job has been taken out of the registry and removing it
has been asked for. -/
def afterRemoval
    (refuses : CronRefusals) (state : CronState) (job : CronJob) : CronState :=
  { state with
    table := (state.table.remove refuses job.jobId).2
    registry :=
      state.registry.filter fun other => other.workflowId != job.workflowId }

theorem unschedule_cons (job : CronJob) (rest : List CronJob) :
    unschedule refuses state (job :: rest) =
      if refuses state.table.changes then
        (false, state.afterRemoval refuses job)
      else
        unschedule refuses
          ((state.afterRemoval refuses job).tell
            (.unscheduled job.workflowId job.schedule)) rest := by
  rw [unschedule, afterRemoval, CronTable.remove]
  cases refuses state.table.changes <;> rfl

theorem changes_afterRemoval (job : CronJob) :
    (state.afterRemoval refuses job).table.changes =
      state.table.changes + 1 := by
  rw [afterRemoval, CronTable.remove]
  split <;> rfl

theorem Accounts.removed
    (h : Accounts orphans state) (hmem : job ∈ state.registry)
    (hgranted : refuses state.table.changes = false) :
    Accounts orphans (state.afterRemoval refuses job) := by
  have hlives := h.registered_lives hmem
  have hregistry :
      (state.afterRemoval refuses job).registry = state.registry.erase job :=
    filter_ne_eq_erase h.onePerWorkflow hmem
  have htable :
      (state.afterRemoval refuses job).table =
        ⟨state.table.jobs.erase job, state.table.added,
          state.table.changes + 1⟩ := by
    rw [← filter_ne_eq_erase h.distinctJobs hlives]
    simp [afterRemoval, CronTable.remove, hgranted]
  have hstays : job ∉ orphans := fun horphan => h.unregistered horphan hmem
  exact
    { same := by
        rw [hregistry, htable, ← List.erase_append_right _ hstays]
        exact h.same.erase job
      onePerWorkflow := by
        rw [hregistry]
        exact h.onePerWorkflow.sublist (List.erase_sublist.map _)
      distinctJobs := by
        rw [htable]
        exact h.distinctJobs.sublist (List.erase_sublist.map _)
      fresh := fun other hother => by
        rw [htable] at hother ⊢
        exact h.fresh other (List.mem_of_mem_erase hother) }

theorem Accounts.orphaned
    (h : Accounts orphans state) (hmem : job ∈ state.registry)
    (hrefused : refuses state.table.changes = true) :
    Accounts (job :: orphans) (state.afterRemoval refuses job) := by
  have hregistry :
      (state.afterRemoval refuses job).registry = state.registry.erase job :=
    filter_ne_eq_erase h.onePerWorkflow hmem
  have htable :
      (state.afterRemoval refuses job).table =
        { state.table with changes := state.table.changes + 1 } := by
    simp [afterRemoval, CronTable.remove, hrefused]
  have hmoved :
      (job :: orphans ++ state.registry.erase job).Perm
        (orphans ++ state.registry) :=
    List.perm_middle.symm.trans
      ((List.perm_cons_erase hmem).symm.append_left orphans)
  exact
    { same := by
        rw [hregistry, htable]
        exact hmoved.trans h.same
      onePerWorkflow := by
        rw [hregistry]
        exact h.onePerWorkflow.sublist (List.erase_sublist.map _)
      distinctJobs := by
        rw [htable]
        exact h.distinctJobs
      fresh := by
        rw [htable]
        exact h.fresh }

/-- The other stale jobs are of other workflows, so that they stay registered. -/
theorem Accounts.sublist_afterRemoval
    (h : Accounts orphans state) (refuses : CronRefusals) {rest : List CronJob}
    (hstale : (job :: rest).Sublist state.registry) :
    rest.Sublist (state.afterRemoval refuses job).registry := by
  have hworkflows := h.onePerWorkflow.sublist (hstale.map _)
  have hothers :
      (rest.filter fun other => other.workflowId != job.workflowId) = rest := by
    refine List.filter_eq_self.mpr fun other hother => ?_
    have hnew := (List.nodup_cons.mp hworkflows).1
    rw [bne_iff_ne]
    exact fun hid => hnew (hid ▸ List.mem_map_of_mem hother)
  rw [← hothers]
  exact (List.sublist_of_cons_sublist hstale).filter _

/-- Unscheduling registered jobs removes them all, or a removal is refused and
makes an orphan of one of them. -/
theorem Accounts.unschedule_cases
    (h : Accounts orphans state) (refuses : CronRefusals)
    {stale : List CronJob} (hstale : stale.Sublist state.registry) :
    ((∀ index < stale.length,
          refuses (state.table.changes + index) = false) ∧
        ∃ later,
          CronState.unschedule refuses state stale = (true, later) ∧
            Accounts orphans later) ∨
      (∃ index < stale.length,
          refuses (state.table.changes + index) = true) ∧
        ∃ later,
          CronState.unschedule refuses state stale = (false, later) ∧
            ∃ lost ∈ stale,
              Accounts (lost :: orphans) later ∧
                ∀ other ∈ later.registry,
                  other.workflowId ≠ lost.workflowId := by
  induction stale generalizing state with
  | nil => exact .inl ⟨by simp, state, rfl, h⟩
  | cons job rest ih =>
      have hmem : job ∈ state.registry := hstale.subset List.mem_cons_self
      rw [unschedule_cons]
      by_cases hrefused : refuses state.table.changes = true
      · rw [if_pos hrefused]
        refine .inr ⟨⟨0, by simp, hrefused⟩, _, rfl, job, List.mem_cons_self,
          h.orphaned hmem hrefused, fun other hother => ?_⟩
        simpa using (List.mem_filter.mp hother).2
      rw [if_neg hrefused]
      have hgranted : refuses state.table.changes = false := by
        simpa using hrefused
      let next :=
        (state.afterRemoval refuses job).tell
          (.unscheduled job.workflowId job.schedule)
      have hnext : Accounts orphans next := (h.removed hmem hgranted).tell _
      have hrest : rest.Sublist next.registry :=
        h.sublist_afterRemoval refuses hstale
      have hasked : ∀ index,
          refuses (next.table.changes + index) =
            refuses (state.table.changes + (index + 1)) := by
        intro index
        have hchanges : next.table.changes = state.table.changes + 1 :=
          changes_afterRemoval job
        rw [hchanges]
        congr 1
        omega
      rcases ih hnext hrest with ⟨hall, hdone⟩ |
        ⟨⟨index, hindex, hrefusal⟩, later, hlater, lost, hlost, hlater'⟩
      · refine .inl ⟨fun index hindex => ?_, hdone⟩
        cases index with
        | zero => exact hgranted
        | succ index =>
            rw [← hasked]
            exact hall index (by simpa using hindex)
      · refine .inr ⟨⟨index + 1, by simpa using hindex, ?_⟩, later, hlater,
          lost, List.mem_cons_of_mem job hlost, hlater'⟩
        rw [← hasked]
        exact hrefusal

end Unschedule

/-! ## Scheduling -/

section Schedule

variable {orphans : List CronJob} {refuses : CronRefusals}
  {isValid : String → Bool} {workflows : List Workflow} {state : CronState}

theorem Accounts.withJob
    (h : Accounts orphans state) {id : Uuid} {schedule : String}
    (hnew : ∀ job ∈ state.registry, job.workflowId ≠ id) :
    Accounts orphans (state.withJob id schedule) where
  same := by
    simp only [CronState.withJob, ← List.append_assoc]
    exact h.same.append_right _
  onePerWorkflow := nodup_map_snoc h.onePerWorkflow hnew
  distinctJobs := nodup_map_snoc h.distinctJobs fun job hmem =>
    Nat.ne_of_lt (h.fresh job hmem)
  fresh := fun job hmem => by
    rcases List.mem_append.mp hmem with hmem | hmem
    · exact Nat.lt_succ_of_lt (h.fresh job hmem)
    · obtain rfl := List.mem_singleton.mp hmem
      exact Nat.lt_succ_self _

/-- Whether or not adding is refused, no job becomes or ceases to be an
orphan. -/
theorem Accounts.scheduleOne
    (h : Accounts orphans state) (workflow : Workflow) :
    Accounts orphans
      (CronState.scheduleOne isValid refuses workflows workflow state).2 := by
  unfold CronState.scheduleOne
  cases wanted? workflows workflow.id with
  | none => exact h
  | some schedule =>
      dsimp only
      split
      · exact h
      rename_i hunregistered
      split
      · cases hrefused : refuses state.table.changes with
        | true =>
            simp only [CronTable.add, hrefused, if_true]
            exact ⟨h.same, h.onePerWorkflow, h.distinctJobs, h.fresh⟩
        | false =>
            simp only [CronTable.add, hrefused]
            exact (h.withJob (by simpa using hunregistered)).tell _
      · exact h.tell _

theorem Accounts.scheduleAll
    (h : Accounts orphans state) (rest : List Workflow) :
    Accounts orphans
      (CronState.scheduleAll isValid refuses workflows state rest).2 := by
  induction rest generalizing state with
  | nil => exact h
  | cons workflow rest ih =>
      have hone :
          Accounts orphans
            (CronState.scheduleOne isValid refuses workflows workflow
              state).2 :=
        h.scheduleOne workflow
      rw [CronState.scheduleAll]
      split
      · rename_i later hlater
        rw [hlater] at hone
        exact hone
      · rename_i later hlater
        rw [hlater] at hone
        exact ih hone

end Schedule

/-! ## Reconciliations -/

section Reconcile

variable {orphans : List CronJob} {isValid : String → Bool} {state : CronState}

/-- A reconciliation leaves the orphans that there were, and one more if a
removal is refused. -/
theorem Accounts.reconcile_cases
    (h : Accounts orphans state) (isValid : String → Bool)
    (refuses : CronRefusals) (workflows : List Workflow) :
    ((∀ index < (state.registry.filter (isStale workflows)).length,
          refuses (state.table.changes + index) = false) ∧
        Accounts orphans
          (CronState.reconcile isValid refuses workflows state).2) ∨
      (∃ index < (state.registry.filter (isStale workflows)).length,
          refuses (state.table.changes + index) = true) ∧
        (CronState.reconcile isValid refuses workflows state).1 = false ∧
        ∃ lost ∈ state.registry.filter (isStale workflows),
          Accounts (lost :: orphans)
              (CronState.reconcile isValid refuses workflows state).2 ∧
            ∀ other ∈
                (CronState.reconcile isValid refuses workflows
                  state).2.registry,
              other.workflowId ≠ lost.workflowId := by
  unfold CronState.reconcile
  rcases h.unschedule_cases refuses List.filter_sublist with
    ⟨hgranted, middle, hmiddle, haccounts⟩ |
    ⟨hrefused, later, hlater, hlost⟩
  · have hall :
        Accounts orphans
          (CronState.scheduleAll isValid refuses workflows middle
            workflows).2 :=
      haccounts.scheduleAll workflows
    refine .inl ⟨hgranted, ?_⟩
    rw [hmiddle]
    dsimp only
    split
    · rename_i later hlater
      rw [hlater] at hall
      exact hall
    · rename_i later hlater
      rw [hlater] at hall
      exact hall.tell _
  · rw [hlater]
    exact .inr ⟨hrefused, rfl, hlost⟩

/-- Orphans stay orphans, whatever is read and refused later. -/
theorem Accounts.afterRounds
    (h : Accounts orphans state) (isValid : String → Bool)
    (rounds : List (CronRefusals × List Workflow)) :
    ∃ more, Accounts (more ++ orphans) (state.afterRounds isValid rounds) := by
  induction rounds generalizing orphans state with
  | nil => exact ⟨[], h⟩
  | cons round rest ih =>
      rcases h.reconcile_cases isValid round.1 round.2 with
        ⟨-, hnext⟩ | ⟨-, -, lost, -, hnext, -⟩
      · exact ih hnext
      · obtain ⟨more, hmore⟩ := ih hnext
        refine ⟨more ++ [lost], ?_⟩
        rw [List.append_assoc]
        exact hmore

/-- A reconciliation that is refused nothing gives a workflow a job when it has
an orphan already. -/
theorem Accounts.doubled
    {job : CronJob} (h : Accounts orphans state) (hjob : job ∈ orphans)
    {workflows : List Workflow} {schedule : String}
    (hwanted : wanted? workflows job.workflowId = some schedule)
    (hvalid : isValid schedule = true) :
    (CronState.reconcile isValid .never workflows state).1 = true ∧
      job ∈ (CronState.reconcile isValid .never workflows state).2.table.jobs ∧
      ∃ other ∈
          (CronState.reconcile isValid .never workflows state).2.table.jobs,
        other.workflowId = job.workflowId ∧ other.jobId ≠ job.jobId := by
  obtain ⟨middle, hmiddle, -⟩ :=
    unschedule_never state (state.registry.filter (isStale workflows))
  obtain ⟨later, hlater, -, hcovers⟩ :=
    scheduleAll_covers isValid middle workflows
  have hended :
      CronState.reconcile isValid .never workflows state =
        (true, later.tell (.registered later.registry.length)) := by
    rw [CronState.reconcile, hmiddle]
    dsimp only
    rw [hlater]
  have haccounts :
      Accounts orphans
        (CronState.reconcile isValid .never workflows state).2 := by
    rcases h.reconcile_cases isValid .never workflows with
      ⟨-, haccounts⟩ | ⟨⟨_, -, hrefused⟩, -⟩
    · exact haccounts
    · simp [CronRefusals.never] at hrefused
  obtain ⟨workflow, hworkflow, hid, -⟩ := exists_of_wanted? hwanted
  rw [← hid] at hwanted
  obtain ⟨other, hother, hsame⟩ :=
    hcovers workflow hworkflow schedule hwanted hvalid
  refine ⟨by rw [hended], haccounts.lives hjob, other, ?_, hsame.trans hid, ?_⟩
  · refine haccounts.registered_lives ?_
    rw [hended]
    exact hother
  · intro hjobId
    have hregistered :
        other ∈
          (CronState.reconcile isValid .never workflows state).2.registry := by
      rw [hended]
      exact hother
    obtain rfl :=
      List.inj_on_of_nodup_map haccounts.distinctJobs
        (haccounts.registered_lives hregistered) (haccounts.lives hjob) hjobId
    exact haccounts.unregistered hjob hregistered

/-- As long as no removal is refused, jobs and registry stay paired, whatever
additions are refused.  A reconciliation one of whose removals is refused fails
and loses track of one stale job: whatever is reconciled later, that job lives
on without being registered, and the next reconciliation that wants its workflow
scheduled and is refused nothing succeeds and leaves the workflow two jobs. -/
theorem refused_removal_orphans
    (isValid : String → Bool) (refuses : CronRefusals)
    (workflows : List Workflow) (state : CronState) (hpaired : state.Paired)
    (hfresh : ∀ job ∈ state.table.jobs, job.jobId < state.table.added) :
    let stale := state.registry.filter (isStale workflows)
    let ended := CronState.reconcile isValid refuses workflows state
    ((∀ index < stale.length,
        refuses (state.table.changes + index) = false) → ended.2.Paired) ∧
      ((∃ index < stale.length,
          refuses (state.table.changes + index) = true) →
        ended.1 = false ∧
          ∃ lost ∈ stale,
            (lost :: ended.2.registry).Perm ended.2.table.jobs ∧
              (∀ job ∈ ended.2.registry, job.workflowId ≠ lost.workflowId) ∧
              ∀ rounds : List (CronRefusals × List Workflow),
                let later := ended.2.afterRounds isValid rounds
                lost ∈ later.table.jobs ∧ lost ∉ later.registry ∧
                  ∀ reread schedule,
                    wanted? reread lost.workflowId = some schedule →
                    isValid schedule = true →
                      let last :=
                        CronState.reconcile isValid .never reread later
                      last.1 = true ∧ lost ∈ last.2.table.jobs ∧
                        ∃ other ∈ last.2.table.jobs,
                          other.workflowId = lost.workflowId ∧
                            other.jobId ≠ lost.jobId) := by
  intro stale ended
  have haccounts : Accounts [] state := accounts_nil_iff.mpr ⟨hpaired, hfresh⟩
  rcases haccounts.reconcile_cases isValid refuses workflows with
    ⟨hgranted, hended⟩ | ⟨hrefused, hfailed, lost, hlost, hended, hother⟩
  · refine ⟨fun _ => (accounts_nil_iff.mp hended).1, ?_⟩
    rintro ⟨index, hindex, hrefusal⟩
    have hgrant := hgranted index hindex
    rw [hrefusal] at hgrant
    contradiction
  · constructor
    · intro hgranted
      obtain ⟨index, hindex, hrefusal⟩ := hrefused
      have hgrant := hgranted index hindex
      rw [hrefusal] at hgrant
      contradiction
    · intro _
      refine ⟨hfailed, lost, hlost, hended.same, hother, fun rounds => ?_⟩
      intro later
      obtain ⟨more, hlater⟩ := hended.afterRounds isValid rounds
      have hmem : lost ∈ more ++ [lost] :=
        List.mem_append_right _ (List.mem_singleton.mpr rfl)
      exact ⟨hlater.lives hmem, hlater.unregistered hmem,
        fun reread schedule hwanted hvalid =>
          hlater.doubled hmem hwanted hvalid⟩

end Reconcile

open SyncState (digest)

def mondays : CronState :=
  (reconcile Cron.isValid .never [digest "0 6 * * Mon"] .empty).2

def refusesSecond : CronRefusals := fun change => change == 1

/-- When the digest is rescheduled while the cron table refuses to remove its
job, the next sync adds a second one. -/
theorem refused_removal_orphans_digest :
    let ended :=
      reconcile Cron.isValid refusesSecond [digest "0 6 * * Tue"] mondays
    let last := reconcile Cron.isValid .never [digest "0 6 * * Tue"] ended.2
    ended.1 = false ∧
      ∃ lost ∈ mondays.registry,
        lost ∈ last.2.table.jobs ∧
          ∃ other ∈ last.2.table.jobs,
            other.workflowId = lost.workflowId ∧
              other.jobId ≠ lost.jobId := by
  intro ended last
  have hpaired : mondays.Paired :=
    ⟨by decide +kernel, by decide +kernel, by decide +kernel⟩
  obtain ⟨hfailed, lost, hlost, -, -, hlater⟩ :=
    (refused_removal_orphans Cron.isValid refusesSecond [digest "0 6 * * Tue"]
      mondays hpaired (by decide +kernel)).2 ⟨0, by decide +kernel, rfl⟩
  have hregistered : lost ∈ mondays.registry := List.mem_of_mem_filter hlost
  have hdigest : lost.workflowId = (digest "").id := by
    have hall : ∀ job ∈ mondays.registry, job.workflowId = (digest "").id := by
      decide +kernel
    exact hall lost hregistered
  have hwanted :
      wanted? [digest "0 6 * * Tue"] lost.workflowId =
        some "0 0 6 * * Tue" := by
    rw [hdigest]
    decide +kernel
  obtain ⟨-, -, hdoubled⟩ := hlater []
  obtain ⟨-, hlives, hother⟩ := hdoubled _ _ hwanted (by decide +kernel)
  exact ⟨hfailed, lost, hregistered, hlives, hother⟩

/-- After the refusal the live job is in no registry, although jobs and registry
were paired. -/
theorem job_lost_by_refused_removal :
    let ended :=
      reconcile Cron.isValid refusesSecond [digest "0 6 * * Tue"] mondays
    mondays.Paired ∧ ended.1 = false ∧
      ∃ job ∈ ended.2.table.jobs, job ∉ ended.2.registry :=
  ⟨⟨by decide +kernel, by decide +kernel, by decide +kernel⟩,
    by decide +kernel,
    ⟨0, .numbered 1, "0 0 6 * * Mon"⟩, by decide +kernel, by decide +kernel⟩

end CronState
end RecordRules
