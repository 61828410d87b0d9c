import RecordRules.Jobs.DelayedBatch
import RecordRules.Proofs.DelayedRuns
import RecordRules.Proofs.QueueContents

/-!
# Batches of delayed actions

A batch claims what is due, and runs and completes each claimed action in turn.
Whatever comes of an action, it leaves one entry in the log and leaves the
queue, which otherwise stays as it is; so nothing that a batch has run is handed
out again.
-/

namespace RecordRules

open Host (Effect Leads)

namespace BatchResult

def serve (delayed : DelayedAction) : Run Host ActionResult := do
  let result ← Engine.runDelayed delayed
  let _ ← (Host.completeDelayed delayed.id).run
  return result

def claiming (host : Host) (batchSize : Int) : Host :=
  { host.counted .claimDue with
    queue := (host.queue.claimDue host.now batchSize).2 }

abbrev Served : Type := DelayedAction × ActionResult

def countOf (status : Status) (runs : List Served) : Nat :=
  runs.countP fun run => run.2.status == status

def wasRun (runs : List Served) (id : Uuid) : Bool :=
  runs.any fun run => run.1.id == id

/-- What one action that was run leaves, apart from its effects. -/
structure Leaves
    (delayed : DelayedAction) (host : Host) (result : ActionResult)
    (later : Host) : Prop where
  settled : result.status ≠ .pending
  logs : ∃ id,
    later.store.logs =
      host.store.logs ++ [delayed.entry id host.now result]
  queue : later.queue = host.queue.complete delayed.id
  calm : later.faults = .calm
  now : later.now = host.now
  writable : later.store.logWritesFail = false

theorem serve_of_calm
    (delayed : DelayedAction) {host : Host} (hcalm : host.faults = .calm)
    (hwritable : host.store.logWritesFail = false) :
    ∃ result later,
      serve delayed host = (.value result, later) ∧
        Leaves delayed host result later := by
  obtain ⟨result, id, effects, saves, ran, hrun, hsettled, hatOnce, hsaves,
    hleads⟩ := Engine.runDelayed_leads delayed hcalm
  rw [LogEntry.logging, hwritable] at hleads
  have hcalmRan : ran.faults = .calm := by
    rw [hleads.faults, hcalm]
  have hcomplete :
      (Host.completeDelayed delayed.id).run ran =
        (.value (.ok ()),
          { ran.counted .complete with
            queue := ran.queue.complete delayed.id }) := by
    rw [Host.completeDelayed, Host.call_run_of_calm hcalmRan]
    rfl
  refine ⟨result, _,
    (Run.bind_of_value hrun _).trans (Run.bind_of_value hcomplete _), ?_⟩
  have hentries :
      (effects ++ ([Effect.logged (delayed.entry id host.now result)] ++
        saves)).filterMap Effect.entry? =
        [delayed.entry id host.now result] := by
    have heffects : effects.filterMap Effect.entry? = [] :=
      Effect.entries_eq_nil fun effect hmem =>
        (hatOnce effect hmem).ofAction.not_ofLog
    have hnone : saves.filterMap Effect.entry? = [] :=
      Effect.entries_eq_nil fun effect hmem => (hsaves effect hmem).not_ofLog
    simp [heffects, hnone, Effect.entry?]
  have hqueue : ran.queue = host.queue := by
    refine hleads.queue_eq fun other hmem => ?_
    rcases List.mem_append.mp hmem with hmem | hmem
    · exact hatOnce _ hmem
    rcases List.mem_append.mp hmem with hmem | hmem
    · simp at hmem
    · exact hsaves _ hmem
  exact
    { settled := hsettled
      logs := ⟨id, hleads.logs.trans (congrArg _ hentries)⟩
      queue := congrArg (·.complete delayed.id) hqueue
      calm := hcalmRan
      now := hleads.now
      writable := hleads.logWritesFail.trans hwritable }

/-! ## All claimed actions -/

/-- What the run of a list of actions leaves, apart from their effects. -/
structure LeavesAll
    (runs : List Served) (host later : Host) : Prop where
  inTurn : Run.InTurn serve runs host later
  settled : ∀ run ∈ runs, run.2.status ≠ .pending
  logs : ∃ entries,
    later.store.logs = host.store.logs ++ entries ∧
      List.Forall₂
        (fun run entry => ∃ id, entry = run.1.entry id host.now run.2) runs
        entries
  lease : later.queue.lease = host.queue.lease
  entries : later.queue.entries =
    host.queue.entries.filter fun entry => !wasRun runs entry.delayed.id

theorem runAll_cons
    (result : BatchResult) (delayed : DelayedAction)
    (rest : List DelayedAction) :
    runAll result (delayed :: rest) =
      serve delayed >>= fun done => runAll (result.add done.status) rest := by
  simp only [runAll, serve, bind_assoc, pure_bind]

def counting (result : BatchResult) (runs : List Served) : BatchResult where
  claimed := result.claimed
  succeeded := result.succeeded + countOf .success runs
  failed := result.failed + countOf .failed runs
  skipped := result.skipped + countOf .skipped runs

theorem counting_cons
    (result : BatchResult) (run : Served) (rest : List Served)
    (hsettled : run.2.status ≠ .pending) :
    result.counting (run :: rest) =
      (result.add run.2.status).counting rest := by
  cases hstatus : run.2.status with
  | pending => exact absurd hstatus hsettled
  | _ =>
      simp [counting, countOf, hstatus, add, Nat.add_assoc, Nat.add_comm 1]

theorem runAll_of_calm
    (result : BatchResult) (due : List DelayedAction) {host : Host}
    (hcalm : host.faults = .calm)
    (hwritable : host.store.logWritesFail = false) :
    ∃ runs later,
      runs.map Prod.fst = due ∧
        runAll result due host = (.value (result.counting runs), later) ∧
        LeavesAll runs host later := by
  induction due generalizing result host with
  | nil =>
      refine ⟨[], host, rfl, rfl, ?_⟩
      exact
        { inTurn := rfl
          settled := by simp
          logs := ⟨[], by simp, .nil⟩
          lease := rfl
          entries := by simp [wasRun] }
  | cons delayed rest ih =>
      obtain ⟨done, middle, hserve, hleaves⟩ :=
        serve_of_calm delayed hcalm hwritable
      obtain ⟨runs, later, hruns, hrest, hall⟩ :=
        ih (result.add done.status) hleaves.calm hleaves.writable
      refine ⟨(delayed, done) :: runs, later, by simp [hruns], ?_, ?_⟩
      · rw [runAll_cons, Run.bind_of_value hserve, hrest,
          counting_cons _ _ _ hleaves.settled]
      · obtain ⟨id, hlogs⟩ := hleaves.logs
        obtain ⟨entries, hlogsRest, hentries⟩ := hall.logs
        exact
          { inTurn := ⟨middle, hserve, hall.inTurn⟩
            settled := List.forall_mem_cons.mpr ⟨hleaves.settled, hall.settled⟩
            logs := by
              refine ⟨delayed.entry id host.now done :: entries, ?_, ?_⟩
              · rw [hlogsRest, hlogs, List.append_assoc, List.singleton_append]
              · rw [hleaves.now] at hentries
                exact .cons ⟨id, rfl⟩ hentries
            lease := by rw [hall.lease, hleaves.queue]; rfl
            entries := by
              rw [hall.entries, hleaves.queue, DelayedQueue.complete,
                List.filter_filter]
              refine List.filter_congr fun entry _ => ?_
              simp only [wasRun, List.any_cons, Bool.not_or]
              rw [Bool.and_comm, bne, Bool.beq_comm] }

end BatchResult

/-! ## The queue afterwards -/

namespace DelayedQueue

def afterAll
    (queue : DelayedQueue) (operations : List QueueOperation) : DelayedQueue :=
  operations.foldl (fun queue operation => (queue.perform operation).2) queue

def holds (queue : DelayedQueue) (id : Uuid) : Prop :=
  id ∈ queue.pending.map DelayedAction.id

variable {queue : DelayedQueue} {id : Uuid}

theorem handed_sublist (queue : DelayedQueue) (now : Time.Instant) (limit : Int) :
    ((queue.claimDue now limit).1.getD []).Sublist queue.sorted.pending := by
  rw [claimDue_eq]
  cases now.addNanos queue.lease with
  | none => exact List.nil_sublist _
  | some leaseEnd => exact leaseFirst_sublist _ _

theorem holds_sorted : queue.sorted.holds id ↔ queue.holds id :=
  (queue.pending_sorted.perm.map DelayedAction.id).mem_iff

theorem not_handed_of_not_holds
    (habsent : ¬ queue.holds id) (operation : QueueOperation) :
    id ∉ (queue.perform operation).1.map DelayedAction.id := by
  cases operation with
  | schedule delayed => simp [perform]
  | claim now limit =>
      intro hmem
      rw [← holds_sorted] at habsent
      exact habsent (((queue.handed_sublist now limit).map _).subset hmem)
  | complete other => simp [perform]

theorem not_holds_perform
    (habsent : ¬ queue.holds id) {operation : QueueOperation}
    (hother : operation.scheduled? ≠ some id) :
    ¬ (queue.perform operation).2.holds id := by
  cases operation with
  | schedule delayed =>
      have hne : id ≠ delayed.id := fun hid => hother (congrArg some hid.symm)
      simpa [perform, schedule, holds, pending, hne] using habsent
  | claim now limit =>
      rw [← holds_sorted] at habsent
      change id ∉ (queue.claimDue now limit).2.pending.map DelayedAction.id
      rw [pending_claimDue]
      exact habsent
  | complete other =>
      intro hmem
      exact habsent (((List.filter_sublist.map _).map _).subset hmem)

theorem not_holds_afterAll
    (habsent : ¬ queue.holds id) (operations : List QueueOperation)
    (hothers : ∀ operation ∈ operations, operation.scheduled? ≠ some id) :
    ¬ (queue.afterAll operations).holds id := by
  induction operations generalizing queue with
  | nil => exact habsent
  | cons operation rest ih =>
      obtain ⟨hfirst, hrest⟩ := List.forall_mem_cons.mp hothers
      exact ih (not_holds_perform habsent hfirst) hrest

end DelayedQueue

/-! ## A whole batch -/

namespace BatchResult

variable {host : Host} {batchSize : Int}

/-- What a batch comes to, with the actions that it ran and their results. -/
structure Account
    (host : Host) (batchSize : Int) (runs : List Served) (result : BatchResult)
    (later : Host) : Prop where
  claimed :
    (host.queue.claimDue host.now batchSize).1 = some (runs.map Prod.fst)
  inTurn : Run.InTurn serve runs (claiming host batchSize) later
  once : (runs.map fun run => run.1.id).Nodup
  ordered : runs.Pairwise fun a b => a.1.runAt.notAfter b.1.runAt = true
  counts : result =
    ⟨runs.length, countOf .success runs, countOf .failed runs,
      countOf .skipped runs⟩
  complete : result.claimed = result.succeeded + result.failed + result.skipped
  /-- Each action that was run has one entry. -/
  logs : ∃ entries,
    later.store.logs = host.store.logs ++ entries ∧
      List.Forall₂
        (fun run entry => ∃ id,
          entry = run.1.entry id host.now run.2 ∧ entry.level = .action)
        runs entries
  lease : later.queue.lease = host.queue.lease
  /-- What was run has left the queue, and nothing else has changed there. -/
  entries : later.queue.entries.Perm
    (host.queue.entries.filter fun entry => !wasRun runs entry.delayed.id)
  /-- Until it is scheduled again, nothing that was run is handed out. -/
  gone : ∀ run ∈ runs, ∀ operations : List QueueOperation,
    (∀ operation ∈ operations, operation.scheduled? ≠ some run.1.id) →
      ∀ operation,
        run.1.id ∉
          ((later.queue.afterAll operations).perform operation).1.map
            DelayedAction.id

theorem level_entry
    (delayed : DelayedAction) (id : Uuid) (now : Time.Instant)
    (result : ActionResult) :
    (delayed.entry id now result).level = .action := by
  unfold DelayedAction.entry LogEntry.withResult
  dsimp only
  split <;> rfl

theorem length_eq_countOf
    {runs : List Served} (hsettled : ∀ run ∈ runs, run.2.status ≠ .pending) :
    runs.length =
      countOf .success runs + countOf .failed runs + countOf .skipped runs := by
  induction runs with
  | nil => rfl
  | cons run rest ih =>
      obtain ⟨hrun, hrest⟩ := List.forall_mem_cons.mp hsettled
      have hih := ih hrest
      simp only [countOf] at hih ⊢
      cases hstatus : run.2.status with
      | pending => exact absurd hstatus hrun
      | _ =>
          simp [hstatus]
          omega

/-- What is left once those claimed have been completed is what was not
claimed, with its lease. -/
theorem entries_perm
    {queue : DelayedQueue} {leaseEnd : Time.Instant} {runs : List Served}
    {claimed : List QueuedAction}
    (hclaimed : claimed.Perm
      (queue.entries.map (.leasedAmong (runs.map Prod.fst) leaseEnd))) :
    (claimed.filter fun entry => !wasRun runs entry.delayed.id).Perm
      (queue.entries.filter fun entry => !wasRun runs entry.delayed.id) := by
  have hsame : ∀ entry : QueuedAction,
      (entry.leasedAmong (runs.map Prod.fst) leaseEnd).delayed =
        entry.delayed := by
    intro entry
    unfold QueuedAction.leasedAmong
    split <;> rfl
  have hkept :
      ∀ entry ∈ queue.entries.filter
          (fun entry => !wasRun runs entry.delayed.id),
        entry.leasedAmong (runs.map Prod.fst) leaseEnd = entry := by
    intro entry hmem
    have hnotRun := (List.mem_filter.mp hmem).2
    rw [QueuedAction.leasedAmong, if_neg]
    simpa [wasRun, Function.comp_def] using hnotRun
  -- A lease was given to exactly the entries that the filter leaves out.
  refine (hclaimed.filter _).trans ?_
  rw [List.filter_map]
  simp only [Function.comp_def, hsame]
  rw [List.map_congr_left hkept, List.map_id']

theorem not_holds_of_run
    {queue later : DelayedQueue} {runs : List Served} {run : Served}
    (hentries : later.entries.Perm
      (queue.entries.filter fun entry => !wasRun runs entry.delayed.id))
    (hmem : run ∈ runs) : ¬ later.holds run.1.id := by
  intro hholds
  obtain ⟨delayed, hdelayed, hid⟩ := List.mem_map.mp hholds
  obtain ⟨entry, hentry, rfl⟩ := List.mem_map.mp hdelayed
  have hkept := (List.mem_filter.mp (hentries.subset hentry)).2
  have hran : wasRun runs entry.delayed.id = true :=
    List.any_eq_true.mpr ⟨run, hmem, by simp [hid]⟩
  simp [hran] at hkept

theorem nodup_of_claimed
    (hdistinct : (host.queue.pending.map DelayedAction.id).Nodup)
    {claimed : List DelayedAction}
    (hclaimed :
      (host.queue.claimDue host.now batchSize).1 = some claimed) :
    (claimed.map DelayedAction.id).Nodup := by
  have hids : (host.queue.sorted.pending.map DelayedAction.id).Nodup :=
    (host.queue.pending_sorted.perm.map _).nodup_iff.mpr hdistinct
  have hsublist := host.queue.handed_sublist host.now batchSize
  rw [hclaimed] at hsublist
  exact (hsublist.map DelayedAction.id).nodup hids

theorem claimDue_of_calm (batchSize : Int) (hcalm : host.faults = .calm) :
    (Host.claimDue host.now batchSize).run host =
      match (host.queue.claimDue host.now batchSize).1 with
      | some claimed => (.value (.ok claimed), claiming host batchSize)
      | none => (.panic, claiming host batchSize) := by
  rw [Host.claimDue, Host.call_run_of_calm hcalm]
  change
    ((Run.update _ >>= _ : Run Host (List DelayedAction)) >>= _) _ = _
  rw [bind_assoc, Run.update_bind]
  change
    ((match (host.queue.claimDue host.now batchSize).1 with
      | some claimed => pure claimed
      | none => Run.breakOff) >>= fun claimed => pure (Except.ok claimed))
        (claiming host batchSize) = _
  cases (host.queue.claimDue host.now batchSize).1 <;> rfl

theorem run_of_claimed
    (hcalm : host.faults = .calm) {claimed : List DelayedAction}
    (hclaimed : (host.queue.claimDue host.now batchSize).1 = some claimed)
    {result : BatchResult} {later : Host}
    (hrun : runAll ⟨claimed.length, 0, 0, 0⟩ claimed
      (claiming host batchSize) = (.value result, later)) :
    (run batchSize).run host = (.value (.ok result), later) := by
  have hclaim := claimDue_of_calm batchSize hcalm
  rw [hclaimed] at hclaim
  refine (Run.bind_of_value hclaim _).trans ?_
  exact Run.bind_of_value hrun _

theorem account_of_calm
    {leaseEnd : Time.Instant} (hcalm : host.faults = .calm)
    (hwritable : host.store.logWritesFail = false)
    (hdistinct : (host.queue.pending.map DelayedAction.id).Nodup)
    (hend : host.now.addNanos host.queue.lease = some leaseEnd) :
    ∃ runs result later,
      (run batchSize).run host = (.value (.ok result), later) ∧
        Account host batchSize runs result later := by
  have hclaims :=
    DelayedQueue.claimsExactly hdistinct (fun _ => rfl) host.now batchSize
  have hhanded := hclaims.handed leaseEnd hend
  have hleased := hclaims.leased leaseEnd hend
  obtain ⟨runs, later, hruns, hrun, hall⟩ :=
    runAll_of_calm
      ⟨((host.queue.due host.now).take batchSize.toNat).length, 0, 0, 0⟩
      ((host.queue.due host.now).take batchSize.toNat)
      (show (claiming host batchSize).faults = .calm from hcalm) hwritable
  rw [← hruns] at hhanded hleased hrun
  have honce : (runs.map fun run => run.1.id).Nodup := by
    have hids := nodup_of_claimed hdistinct hhanded
    rwa [List.map_map] at hids
  have hordered :
      runs.Pairwise fun a b => a.1.runAt.notAfter b.1.runAt = true := by
    have hdue := hclaims.order.ordered.sublist
      (List.take_sublist batchSize.toNat (host.queue.due host.now))
    rw [← hruns] at hdue
    exact List.pairwise_map.mp hdue
  have hentries : later.queue.entries.Perm
      (host.queue.entries.filter fun entry =>
        !wasRun runs entry.delayed.id) := by
    rw [hall.entries]
    exact entries_perm hleased
  have hcounts :
      counting ⟨(runs.map Prod.fst).length, 0, 0, 0⟩ runs =
        ⟨runs.length, countOf .success runs, countOf .failed runs,
          countOf .skipped runs⟩ := by
    simp [counting]
  rw [hcounts] at hrun
  refine ⟨runs, _, later, run_of_claimed hcalm hhanded hrun, ?_⟩
  exact
    { claimed := hhanded
      inTurn := hall.inTurn
      once := honce
      ordered := hordered
      counts := rfl
      complete := length_eq_countOf hall.settled
      logs := by
        obtain ⟨entries, hlogs, htell⟩ := hall.logs
        refine ⟨entries, hlogs, htell.imp ?_⟩
        rintro run entry ⟨id, rfl⟩
        exact ⟨id, rfl, level_entry run.1 id host.now run.2⟩
      lease := hall.lease.trans
        (host.queue.lease_perform (.claim host.now batchSize))
      entries := hentries
      gone := fun run hmem operations hothers operation =>
        DelayedQueue.not_handed_of_not_holds
          (DelayedQueue.not_holds_afterAll (not_holds_of_run hentries hmem)
            operations hothers) operation }

/-- Where nothing is disturbed and the log can be written, a batch runs each
action that it claims once, in the order of their times, and completes it
whatever comes of it; counts, log and queue account for exactly these actions.
When the end of its lease is no representable instant it breaks off, and has run
nothing and changed no entry. -/
theorem batch_runs_claims_once
    (host : Host) (batchSize : Int) (hcalm : host.faults = .calm)
    (hwritable : host.store.logWritesFail = false)
    (hdistinct : (host.queue.pending.map DelayedAction.id).Nodup) :
    ((host.now.addNanos host.queue.lease).isSome = true →
        ∃ runs result later,
          (run batchSize).run host = (.value (.ok result), later) ∧
            Account host batchSize runs result later) ∧
      (host.now.addNanos host.queue.lease = none →
        (run batchSize).run host = (.panic, claiming host batchSize) ∧
          (claiming host batchSize).queue.entries.Perm host.queue.entries) := by
  constructor
  · intro hrepresentable
    obtain ⟨leaseEnd, hend⟩ := Option.isSome_iff_exists.mp hrepresentable
    exact account_of_calm hcalm hwritable hdistinct hend
  · intro hbeyond
    have hclaims :=
      DelayedQueue.claimsExactly hdistinct (fun _ => rfl) host.now batchSize
    obtain ⟨hnone, hperm⟩ := hclaims.brokenOff hbeyond
    have hclaim := claimDue_of_calm batchSize hcalm
    rw [hnone] at hclaim
    exact ⟨Run.bind_of_panic hclaim _, hperm⟩

open Engine (escalate escalation escalationContext newTicket)

def escalationOrder : DelayedAction :=
  escalate.deferral newTicket escalationContext (.numbered 4) ⟨0, 0⟩ ⟨300, 0⟩

/-- Two orders, of which the earlier has an unreadable snapshot. -/
def twoOrders : DelayedQueue :=
  { DelayedQueue.empty 300 with
    entries :=
      [⟨{ escalationOrder with
          id := .numbered 5
          recordSnapshot := .null
          runAt := ⟨60, 0⟩ }, none⟩,
        ⟨escalationOrder, none⟩] }

theorem sorted_twoOrders : twoOrders.sorted = twoOrders := by
  have hordered :
      twoOrders.entries.Pairwise fun a b => a.notAfter b = true := by
    decide
  rw [DelayedQueue.sorted, List.mergeSort_of_pairwise hordered]

def withTwoOrders (now : Time.Instant) : Host :=
  { Host.ofWorkflows [escalation] now with queue := twoOrders }

theorem batch_runs_claims_once_two_orders :
    ∃ runs result later,
      (run 10).run (withTwoOrders ⟨300, 0⟩) = (.value (.ok result), later) ∧
        Account (withTwoOrders ⟨300, 0⟩) 10 runs result later ∧
        runs.map (fun run => run.1.id) = [.numbered 5, .numbered 4] := by
  obtain ⟨runs, result, later, hrun, haccount⟩ :=
    (batch_runs_claims_once (withTwoOrders ⟨300, 0⟩) 10 rfl rfl (by decide)).1
      (by decide)
  refine ⟨runs, result, later, hrun, haccount, ?_⟩
  have hids :
      (twoOrders.claimDue ⟨300, 0⟩ 10).1.map (List.map DelayedAction.id) =
        some [.numbered 5, .numbered 4] := by
    rw [DelayedQueue.claimDue_eq, sorted_twoOrders]
    decide +kernel
  have hclaimed := congrArg (Option.map (List.map DelayedAction.id))
    haccount.claimed
  simpa [Function.comp_def] using hclaimed.symm.trans hids

/-- In the last minute that is represented no lease of five minutes can be
given, so that a batch breaks off and runs nothing of what is due. -/
theorem batch_in_last_minute :
    ∃ host : Host,
      host.faults = .calm ∧ host.store.logWritesFail = false ∧
        (host.queue.pending.map DelayedAction.id).Nodup ∧
        (host.queue.due host.now).map DelayedAction.id =
          [.numbered 5, .numbered 4] ∧
        ((run 10).run host).1 = .panic := by
  let host := withTwoOrders (.ofDate ⟨Time.lastYear, 12, 31⟩ 86340 0)
  refine ⟨host, rfl, rfl, by decide, ?_, ?_⟩
  · change (twoOrders.due host.now).map DelayedAction.id = _
    rw [DelayedQueue.due, sorted_twoOrders]
    decide +kernel
  · have hbeyond : host.now.addNanos host.queue.lease = none := by
      decide
    have hclaim := claimDue_of_calm 10 (show host.faults = .calm from rfl)
    have hnone : (host.queue.claimDue host.now 10).1 = none := by
      rw [DelayedQueue.claimDue_eq, hbeyond]
    rw [hnone] at hclaim
    exact congrArg Prod.fst (Run.bind_of_panic hclaim _)

end BatchResult

end RecordRules
