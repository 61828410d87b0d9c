import RecordRules.Proofs.LeaseExclusivity
import RecordRules.Proofs.StableSort

/-!
# What the queue holds and what claims hand out

The queue holds the actions that were scheduled and not completed since,
whatever was claimed in between.  A claim hands out the first of those that have
come due and are free, in the order in which they run and then in the order in
which they were scheduled, and leases no other.  So claims at one instant go
through all of them once.
-/

namespace RecordRules

open Time (Instant)

def QueueOperation.completes (id : Uuid) : QueueOperation → Bool
  | .complete other => other == id
  | _ => false

@[simp] theorem QueueOperation.completes_complete (id other : Uuid) :
    completes id (.complete other) = (other == id) := rfl

/-- The entry with a new lease, if its action is among those handed out. -/
def QueuedAction.leasedAmong
    (handed : List DelayedAction) (leaseEnd : Instant) (entry : QueuedAction) :
    QueuedAction :=
  if handed.any fun delayed => delayed.id == entry.delayed.id then
    { entry with leaseEnd := some leaseEnd }
  else entry

namespace DelayedQueue

/-- The actions scheduled and not completed since, in the order in which they
were scheduled. -/
def outstanding : List QueueOperation → List DelayedAction
  | [] => []
  | .schedule delayed :: rest =>
    if rest.any (QueueOperation.completes delayed.id) then outstanding rest
    else delayed :: outstanding rest
  | _ :: rest => outstanding rest

/-- Has the action come due, and does it wait in the queue without a lease or
with one that has ended? -/
def offers (queue : DelayedQueue) (now : Instant) (delayed : DelayedAction) :
    Bool :=
  delayed.runAt.notAfter now &&
    queue.entries.any fun entry =>
      entry.delayed.id == delayed.id &&
        entry.leaseEnd.all fun leaseEnd => leaseEnd.notAfter now

/-- The actions that have come due and are free, in the order in which claims
hand them out. -/
def due (queue : DelayedQueue) (now : Instant) : List DelayedAction :=
  (queue.sorted.entries.filter fun entry => entry.isClaimable now).map
    QueuedAction.delayed

/-- What a claim hands out and what it leases, when some actions wait in the
order in which they were scheduled. -/
structure ClaimsExactly
    (queue : DelayedQueue) (waiting : List DelayedAction) (now : Instant)
    (limit : Int) : Prop where
  order : StableSort DelayedAction.runAt Instant.notAfter
    (waiting.filter (queue.offers now)) (queue.due now)
  handed : ∀ leaseEnd, now.addNanos queue.lease = some leaseEnd →
    (queue.claimDue now limit).1 = some ((queue.due now).take limit.toNat)
  leased : ∀ leaseEnd, now.addNanos queue.lease = some leaseEnd →
    (queue.claimDue now limit).2.entries.Perm
      (queue.entries.map
        (.leasedAmong ((queue.due now).take limit.toNat) leaseEnd))
  /-- A claim whose lease has no representable end changes nothing. -/
  brokenOff : now.addNanos queue.lease = none →
    (queue.claimDue now limit).1 = none ∧
      (queue.claimDue now limit).2.entries.Perm queue.entries

def handedByClaims
    (lease : Int) (operations : List QueueOperation) (now : Instant)
    (limit : Int) (rounds : Nat) : List (List DelayedAction) :=
  ((serve lease
      (operations ++ List.replicate rounds (.claim now limit))).1.drop
    operations.length).map QueueEvent.handed

/-! ## What is outstanding -/

theorem outstanding_schedule
    (operations : List QueueOperation) (delayed : DelayedAction) :
    outstanding (operations ++ [.schedule delayed]) =
      outstanding operations ++ [delayed] := by
  induction operations with
  | nil => rfl
  | cons operation rest ih =>
      cases operation with
      | schedule other =>
          by_cases hcompleted :
              rest.any (QueueOperation.completes other.id) = true
          · simp [outstanding, hcompleted, ih]
          · simp [outstanding, hcompleted, ih, QueueOperation.completes]
      | claim now limit => exact ih
      | complete id => exact ih

theorem outstanding_claim
    (operations : List QueueOperation) (now : Instant) (limit : Int) :
    outstanding (operations ++ [.claim now limit]) =
      outstanding operations := by
  induction operations with
  | nil => rfl
  | cons operation rest ih =>
      cases operation with
      | schedule other =>
          simp [outstanding, ih, QueueOperation.completes]
      | claim now limit => exact ih
      | complete id => exact ih

theorem outstanding_complete
    (operations : List QueueOperation) (id : Uuid) :
    outstanding (operations ++ [.complete id]) =
      (outstanding operations).filter fun delayed => delayed.id != id := by
  induction operations with
  | nil => rfl
  | cons operation rest ih =>
      cases operation with
      | schedule other =>
          by_cases hcompleted :
              rest.any (QueueOperation.completes other.id) = true
          · simp [outstanding, hcompleted, ih]
          · by_cases hid : other.id = id
            · subst hid
              simp [outstanding, hcompleted, ih]
            · simp [outstanding, hcompleted, ih, hid, Ne.symm hid]
      | claim now limit => exact ih
      | complete other => exact ih

theorem outstanding_ids_sublist (operations : List QueueOperation) :
    ((outstanding operations).map DelayedAction.id).Sublist
      (operations.filterMap QueueOperation.scheduled?) := by
  induction operations with
  | nil => exact .refl _
  | cons operation rest ih =>
      cases operation with
      | schedule delayed =>
          by_cases hcompleted :
              rest.any (QueueOperation.completes delayed.id) = true
          · simpa [outstanding, hcompleted, QueueOperation.scheduled?] using
              ih.cons delayed.id
          · simpa [outstanding, hcompleted, QueueOperation.scheduled?] using
              ih.cons_cons delayed.id
      | claim now limit => exact ih
      | complete id => exact ih

/-! ## What a claim does to the entries in order -/

section LeaseFirst

variable {now leaseEnd : Instant}

theorem leaseFirst_fst (limit : Nat) (entries : List QueuedAction) :
    (leaseFirst now leaseEnd limit entries).1 =
      ((entries.filter fun entry => entry.isClaimable now).map
        QueuedAction.delayed).take limit := by
  fun_induction leaseFirst now leaseEnd limit entries with
  | case1 => simp
  | case2 => simp
  | case3 limit entry rest hclaimable claimed later heq ih =>
      rw [heq] at ih
      simp only at ih
      simp [hclaimable, ih]
  | case4 limit entry rest hclaimable claimed later heq ih =>
      rw [heq] at ih
      simp only at ih
      simp [hclaimable, ih]

theorem leaseFirst_filter
    (hlater : leaseEnd.notAfter now = false) (limit : Nat)
    (entries : List QueuedAction) :
    ((leaseFirst now leaseEnd limit entries).2.filter fun entry =>
        entry.isClaimable now) =
      (entries.filter fun entry => entry.isClaimable now).drop limit := by
  fun_induction leaseFirst now leaseEnd limit entries with
  | case1 => simp
  | case2 => simp
  | case3 limit entry rest hclaimable claimed later heq ih =>
      rw [heq] at ih
      simp only at ih
      have hleased :
          QueuedAction.isClaimable ⟨entry.delayed, some leaseEnd⟩ now =
            false := by
        simp [QueuedAction.isClaimable, QueuedAction.isFree, hlater]
      simp [hclaimable, hleased, ih]
  | case4 limit entry rest hclaimable claimed later heq ih =>
      rw [heq] at ih
      simp only at ih
      simp [hclaimable, ih]

theorem leaseFirst_snd
    (limit : Nat) (entries : List QueuedAction)
    (hdistinct : (entries.map fun entry => entry.delayed.id).Nodup) :
    (leaseFirst now leaseEnd limit entries).2 =
      entries.map
        (.leasedAmong (leaseFirst now leaseEnd limit entries).1 leaseEnd) := by
  fun_induction leaseFirst now leaseEnd limit entries with
  | case1 => rfl
  | case2 entry rest =>
      have hkept :
          ∀ other ∈ entry :: rest, other.leasedAmong [] leaseEnd = other :=
        fun other _ => if_neg (by simp)
      rw [List.map_congr_left hkept, List.map_id']
  | case3 limit entry rest hclaimable claimed later heq ih =>
      rw [heq] at ih
      rw [List.map_cons, List.nodup_cons] at hdistinct
      obtain ⟨hfresh, hrest⟩ := hdistinct
      have hothers :
          ∀ other ∈ rest,
            other.leasedAmong claimed leaseEnd =
              other.leasedAmong (entry.delayed :: claimed) leaseEnd := by
        intro other hother
        have hne : entry.delayed.id ≠ other.delayed.id := by
          intro hid
          exact hfresh (hid ▸ List.mem_map_of_mem hother)
        simp [QueuedAction.leasedAmong, hne]
      rw [List.map_cons, ← List.map_congr_left hothers, ← ih hrest]
      simp [QueuedAction.leasedAmong]
  | case4 limit entry rest hclaimable claimed later heq ih =>
      rw [heq] at ih
      rw [List.map_cons, List.nodup_cons] at hdistinct
      obtain ⟨hfresh, hrest⟩ := hdistinct
      have hclaimed :
          claimed.Sublist (rest.map QueuedAction.delayed) := by
        have hsublist :
            (leaseFirst now leaseEnd (limit + 1) rest).1.Sublist
              (rest.map QueuedAction.delayed) :=
          leaseFirst_sublist _ _
        rwa [heq] at hsublist
      have hkept : entry.leasedAmong claimed leaseEnd = entry := by
        refine if_neg ?_
        intro hany
        obtain ⟨delayed, hmem, hid⟩ := List.any_eq_true.mp hany
        obtain ⟨other, hother, rfl⟩ :=
          List.mem_map.mp (hclaimed.subset hmem)
        have hsame : other.delayed.id = entry.delayed.id := by
          simpa using hid
        exact hfresh (hsame ▸ List.mem_map_of_mem hother)
      rw [List.map_cons, hkept, ← ih hrest]

end LeaseFirst

/-! ## Claims -/

theorem stableSort_sorted (queue : DelayedQueue) :
    StableSort (fun entry : QueuedAction => entry.delayed.runAt)
      Instant.notAfter queue.entries queue.sorted.entries := by
  have htrans : ∀ a b c : Instant,
      a.notAfter b = true → b.notAfter c = true → a.notAfter c = true :=
    fun _ _ _ => Instant.notAfter_trans
  exact stableSort_mergeSort _ htrans Instant.notAfter_total queue.entries

theorem pending_sorted (queue : DelayedQueue) :
    SameTies DelayedAction.runAt queue.sorted.pending queue.pending :=
  queue.stableSort_sorted.ties.map QueuedAction.delayed fun _ => rfl

/-- A claim changes the order of what waits, and nothing else of it. -/
theorem pending_claimDue
    (queue : DelayedQueue) (now : Instant) (limit : Int) :
    (queue.claimDue now limit).2.pending = queue.sorted.pending := by
  rw [claimDue_eq]
  cases now.addNanos queue.lease with
  | none => rfl
  | some leaseEnd => exact leaseFirst_map_delayed _ _

theorem isFree_eq_all (entry : QueuedAction) (now : Instant) :
    entry.isFree now =
      entry.leaseEnd.all fun leaseEnd => leaseEnd.notAfter now := by
  unfold QueuedAction.isFree
  cases entry.leaseEnd <;> rfl

theorem offers_of_mem
    {queue : DelayedQueue}
    (hdistinct : (queue.pending.map DelayedAction.id).Nodup)
    {entry : QueuedAction} (hentry : entry ∈ queue.entries) (now : Instant) :
    queue.offers now entry.delayed = entry.isClaimable now := by
  rw [pending, List.map_map] at hdistinct
  rw [offers, QueuedAction.isClaimable, isFree_eq_all]
  congr 1
  apply Bool.eq_iff_iff.mpr
  constructor
  · intro hoffers
    obtain ⟨other, hother, hboth⟩ := List.any_eq_true.mp hoffers
    rw [Bool.and_eq_true, beq_iff_eq] at hboth
    rw [← eq_of_same_id hdistinct hother hentry hboth.1]
    exact hboth.2
  · intro hfree
    exact List.any_eq_true.mpr ⟨entry, hentry, by simp [hfree]⟩

theorem due_stableSort
    {queue : DelayedQueue} {waiting : List DelayedAction}
    (hdistinct : (queue.pending.map DelayedAction.id).Nodup)
    (hcontents : SameTies DelayedAction.runAt queue.pending waiting)
    (now : Instant) :
    StableSort DelayedAction.runAt Instant.notAfter
      (waiting.filter (queue.offers now)) (queue.due now) := by
  have hoffered :
      (queue.entries.filter fun entry => entry.isClaimable now).map
          QueuedAction.delayed =
        queue.pending.filter (queue.offers now) := by
    rw [pending, List.filter_map]
    refine congrArg _ (List.filter_congr fun entry hentry => ?_)
    exact (offers_of_mem hdistinct hentry now).symm
  obtain ⟨hordered, hties⟩ := queue.stableSort_sorted
  refine ⟨?_, ?_⟩
  · rw [due, List.pairwise_map]
    exact hordered.filter _
  · have hdue :
        SameTies DelayedAction.runAt (queue.due now)
          (queue.pending.filter (queue.offers now)) := by
      rw [← hoffered]
      exact (hties.filter _).map QueuedAction.delayed fun _ => rfl
    exact hdue.trans (hcontents.filter _)

theorem claimDue_fst
    (queue : DelayedQueue) {now leaseEnd : Instant}
    (hend : now.addNanos queue.lease = some leaseEnd) (limit : Int) :
    (queue.claimDue now limit).1 =
      some ((queue.due now).take limit.toNat) := by
  rw [claimDue_eq, hend]
  exact congrArg some (leaseFirst_fst _ _)

theorem claimsExactly
    {queue : DelayedQueue} {waiting : List DelayedAction}
    (hdistinct : (queue.pending.map DelayedAction.id).Nodup)
    (hcontents : SameTies DelayedAction.runAt queue.pending waiting)
    (now : Instant) (limit : Int) :
    ClaimsExactly queue waiting now limit where
  order := due_stableSort hdistinct hcontents now
  handed := fun leaseEnd hend => queue.claimDue_fst hend limit
  leased := fun leaseEnd hend => by
    have hperm : queue.sorted.entries.Perm queue.entries :=
      queue.stableSort_sorted.ties.perm
    have hids :
        (queue.sorted.entries.map fun entry => entry.delayed.id).Nodup := by
      rw [pending, List.map_map] at hdistinct
      exact (hperm.map _).nodup_iff.mpr hdistinct
    rw [claimDue_eq, hend]
    dsimp only
    rw [leaseFirst_snd _ _ hids, leaseFirst_fst]
    exact hperm.map _
  brokenOff := fun hend => by
    rw [claimDue_eq, hend]
    exact ⟨rfl, queue.stableSort_sorted.ties.perm⟩

/-- A claim whose lease goes on leaves the rest of what was due. -/
theorem due_claimDue
    (queue : DelayedQueue) {now leaseEnd : Instant}
    (hend : now.addNanos queue.lease = some leaseEnd)
    (hlater : leaseEnd.notAfter now = false) (limit : Int) :
    (queue.claimDue now limit).2.due now =
      (queue.due now).drop limit.toNat := by
  have hsorted :
      (queue.claimDue now limit).2.sorted =
        (queue.claimDue now limit).2 := by
    have hordered :
        (queue.claimDue now limit).2.pending.Pairwise fun a b =>
          a.runAt.notAfter b.runAt = true := by
      rw [pending_claimDue, pending, List.pairwise_map]
      exact queue.stableSort_sorted.ordered
    rw [pending, List.pairwise_map] at hordered
    exact congrArg (DelayedQueue.mk · _) (List.mergeSort_of_pairwise hordered)
  rw [due, hsorted, claimDue_eq, hend]
  dsimp only
  rw [leaseFirst_filter hlater, List.map_drop]
  rfl

/-! ## Runs of the queue -/

theorem lease_perform (queue : DelayedQueue) (operation : QueueOperation) :
    (queue.perform operation).2.lease = queue.lease := by
  cases operation with
  | schedule delayed => rfl
  | claim now limit =>
      rw [perform, claimDue_eq]
      cases now.addNanos queue.lease <;> rfl
  | complete id => rfl

theorem lease_serve (lease : Int) (operations : List QueueOperation) :
    (serve lease operations).2.lease = lease := by
  induction operations using List.reverseRecOn with
  | nil => rfl
  | append_singleton operations operation ih =>
      rw [serve_snoc, lease_perform, ih]

/-- Every operation keeps what waits equal to what is outstanding, ties
included. -/
theorem contents_perform
    {queue : DelayedQueue} {operations : List QueueOperation}
    (h : SameTies DelayedAction.runAt queue.pending (outstanding operations))
    (operation : QueueOperation) :
    SameTies DelayedAction.runAt (queue.perform operation).2.pending
      (outstanding (operations ++ [operation])) := by
  cases operation with
  | schedule delayed =>
      rw [outstanding_schedule]
      simpa [perform, schedule, pending] using h.append_right [delayed]
  | claim now limit =>
      rw [outstanding_claim, perform, pending_claimDue]
      exact queue.pending_sorted.trans h
  | complete id =>
      rw [outstanding_complete]
      simpa [perform, complete, pending, List.filter_map, Function.comp_def]
        using h.filter fun delayed => delayed.id != id

theorem contents_serve (lease : Int) (operations : List QueueOperation) :
    SameTies DelayedAction.runAt (serve lease operations).2.pending
      (outstanding operations) := by
  induction operations using List.reverseRecOn with
  | nil => exact fun _ => rfl
  | append_singleton operations operation ih =>
      rw [serve_snoc]
      exact contents_perform ih operation

/-! ## Claims at one instant -/

section Rounds

variable (lease : Int) (operations : List QueueOperation) (now : Instant)
  (limit : Int)

theorem serve_claims_succ (rounds : Nat) :
    serve lease
        (operations ++ List.replicate (rounds + 1) (.claim now limit)) =
      ((serve lease
            (operations ++ List.replicate rounds (.claim now limit))).1 ++
          [⟨.claim now limit,
            ((serve lease
              (operations ++ List.replicate rounds
                (.claim now limit))).2.claimDue now limit).1.getD []⟩],
        ((serve lease
          (operations ++ List.replicate rounds (.claim now limit))).2.claimDue
            now limit).2) := by
  rw [List.replicate_succ', ← List.append_assoc, serve_snoc]
  rfl

variable {lease now limit}

theorem due_claims
    {leaseEnd : Instant} (hend : now.addNanos lease = some leaseEnd)
    (hlater : leaseEnd.notAfter now = false) (rounds : Nat) :
    (serve lease
        (operations ++ List.replicate rounds (.claim now limit))).2.due now =
      ((serve lease operations).2.due now).drop (rounds * limit.toNat) := by
  induction rounds with
  | zero => simp
  | succ rounds ih =>
      rw [serve_claims_succ,
        due_claimDue _ (by rw [lease_serve]; exact hend) hlater, ih,
        List.drop_drop]
      congr 1
      rw [Nat.add_mul]
      omega

/-- Claims at one instant hand out what is due in slices of the limit. -/
theorem handedByClaims_eq
    {leaseEnd : Instant} (hend : now.addNanos lease = some leaseEnd)
    (hlater : leaseEnd.notAfter now = false) (rounds : Nat) :
    handedByClaims lease operations now limit rounds =
      (List.range rounds).map fun round =>
        (((serve lease operations).2.due now).drop
          (round * limit.toNat)).take limit.toNat := by
  induction rounds with
  | zero =>
      have hlength := map_operation_serve lease operations
      simp [handedByClaims, ← congrArg List.length hlength]
  | succ rounds ih =>
      have hlength :
          operations.length ≤
            (serve lease (operations ++
              List.replicate rounds (.claim now limit))).1.length := by
        have hall := congrArg List.length
          (map_operation_serve lease
            (operations ++ List.replicate rounds (.claim now limit)))
        simp only [List.length_map, List.length_append] at hall
        omega
      rw [List.range_succ, List.map_append, ← ih, handedByClaims,
        serve_claims_succ, List.drop_append_of_le_length hlength,
        List.map_append,
        claimDue_fst _ (by rw [lease_serve]; exact hend),
        due_claims operations hend hlater]
      rfl

end Rounds

theorem flatten_slices {α : Type} (items : List α) (size rounds : Nat) :
    ((List.range rounds).map fun round =>
        (items.drop (round * size)).take size).flatten =
      items.take (rounds * size) := by
  induction rounds with
  | zero => simp
  | succ rounds ih =>
      rw [List.range_succ, List.map_append, List.flatten_append, ih,
        Nat.add_mul, Nat.one_mul, List.take_add]
      simp

/-- However workers interleave their operations, the queue holds what was
scheduled and not completed since, as long as no identifier is scheduled twice,
and every claim hands out the first of what is due.  Claims at one instant hand
out each action that was due once, and then nothing. -/
theorem serve_conserves
    (lease : Int) (operations : List QueueOperation)
    (hdistinct : (operations.filterMap QueueOperation.scheduled?).Nodup) :
    (serve lease operations).2.pending.Perm (outstanding operations) ∧
      (∀ now limit,
        ClaimsExactly (serve lease operations).2 (outstanding operations) now
          limit) ∧
      ∀ now limit, 0 < lease → 1 ≤ limit → (now.addNanos lease).isSome = true →
        ∀ rounds,
          handedByClaims lease operations now limit rounds =
              (List.range rounds).map (fun round =>
                (((serve lease operations).2.due now).drop
                  (round * limit.toNat)).take limit.toNat) ∧
            (((serve lease operations).2.due now).length ≤ rounds →
              (handedByClaims lease operations now limit rounds).flatten =
                  (serve lease operations).2.due now ∧
                handedByClaims lease operations now limit (rounds + 1) =
                  handedByClaims lease operations now limit rounds ++
                    [[]]) := by
  have hcontents := contents_serve lease operations
  have hids :
      ((serve lease operations).2.pending.map DelayedAction.id).Nodup :=
    (hcontents.perm.map _).nodup_iff.mpr
      ((outstanding_ids_sublist operations).nodup hdistinct)
  refine ⟨hcontents.perm, fun now limit => claimsExactly hids hcontents now limit,
    ?_⟩
  intro now limit hlease hlimit hrepresentable rounds
  obtain ⟨leaseEnd, hend⟩ := Option.isSome_iff_exists.mp hrepresentable
  have hlater := Instant.later_of_addNanos hlease hend
  have hslices : ∀ count,
      handedByClaims lease operations now limit count =
        (List.range count).map fun round =>
          (((serve lease operations).2.due now).drop
            (round * limit.toNat)).take limit.toNat :=
    handedByClaims_eq operations hend hlater
  refine ⟨hslices rounds, fun hrounds => ?_⟩
  have hsize :
      ((serve lease operations).2.due now).length ≤ rounds * limit.toNat :=
    Nat.le_trans hrounds (Nat.le_mul_of_pos_right rounds (by omega))
  constructor
  · rw [hslices, flatten_slices, List.take_of_length_le hsize]
  · rw [hslices, hslices, List.range_succ, List.map_append]
    simp [List.drop_eq_nil_of_le hsize]

/-- The action of a serial number, put off until so many seconds after the
beginning of 1970. -/
def delayedUntil (serial : Nat) (seconds : Int) : DelayedAction :=
  { postponed with id := .numbered serial, runAt := ⟨seconds, 0⟩ }

/-- The first action is leased from the eighth second to the thirteenth.  Four
more are left behind it, neither in order nor all due, and two of them tied; one
was completed. -/
def crowd : List QueueOperation :=
  [.schedule (delayedUntil 1 0), .claim ⟨8, 0⟩ 1,
    .schedule (delayedUntil 2 3), .schedule (delayedUntil 3 1),
    .schedule (delayedUntil 4 0), .schedule (delayedUntil 5 1),
    .schedule (delayedUntil 6 100), .complete (.numbered 4)]

theorem entries_crowd :
    (serve 5000000000 crowd).2.entries =
      [⟨delayedUntil 1 0, some ⟨13, 0⟩⟩, ⟨delayedUntil 2 3, none⟩,
        ⟨delayedUntil 3 1, none⟩, ⟨delayedUntil 5 1, none⟩,
        ⟨delayedUntil 6 100, none⟩] := by
  with_unfolding_all rfl

theorem sorted_crowd :
    (serve 5000000000 crowd).2.sorted.entries =
      [⟨delayedUntil 1 0, some ⟨13, 0⟩⟩, ⟨delayedUntil 3 1, none⟩,
        ⟨delayedUntil 5 1, none⟩, ⟨delayedUntil 2 3, none⟩,
        ⟨delayedUntil 6 100, none⟩] := by
  rw [sorted, entries_crowd]
  simp [List.mergeSort, List.MergeSort.Internal.splitInTwo,
    QueuedAction.notAfter, delayedUntil, Instant.notAfter]

/-- A claim leaves out what is leased and what is not due, and one at the end of
the first lease hands it out again. -/
theorem serve_conserves_crowd :
    let queue := (serve 5000000000 crowd).2
    let waiting :=
      [delayedUntil 1 0, delayedUntil 2 3, delayedUntil 3 1, delayedUntil 5 1,
        delayedUntil 6 100]
    queue.pending.Perm waiting ∧
      ClaimsExactly queue waiting ⟨10, 0⟩ 2 ∧
      queue.due ⟨10, 0⟩ =
        [delayedUntil 3 1, delayedUntil 5 1, delayedUntil 2 3] ∧
      handedByClaims 5000000000 crowd ⟨10, 0⟩ 2 3 =
        [[delayedUntil 3 1, delayedUntil 5 1], [delayedUntil 2 3], []] ∧
      handedByClaims 5000000000 crowd ⟨10, 0⟩ 2 4 =
        [[delayedUntil 3 1, delayedUntil 5 1], [delayedUntil 2 3], [], []] ∧
      handedByClaims 5000000000 crowd ⟨13, 0⟩ 3 2 =
        [[delayedUntil 1 0, delayedUntil 3 1, delayedUntil 5 1],
          [delayedUntil 2 3]] := by
  intro queue waiting
  obtain ⟨hperm, hclaims, hrounds⟩ :=
    serve_conserves 5000000000 crowd (by decide)
  have hdue :
      queue.due ⟨10, 0⟩ =
        [delayedUntil 3 1, delayedUntil 5 1, delayedUntil 2 3] := by
    rw [due, sorted_crowd]
    rfl
  have hlater :
      queue.due ⟨13, 0⟩ =
        [delayedUntil 1 0, delayedUntil 3 1, delayedUntil 5 1,
          delayedUntil 2 3] := by
    rw [due, sorted_crowd]
    rfl
  have hround (rounds : Nat) :=
    hrounds ⟨10, 0⟩ 2 (by decide) (by decide) (by decide) rounds
  refine ⟨hperm, hclaims ⟨10, 0⟩ 2, hdue, ?_, ?_, ?_⟩
  · rw [(hround 3).1, hdue]
    rfl
  · rw [((hround 3).2 (by rw [hdue]; decide)).2, (hround 3).1, hdue]
    rfl
  · rw [(hrounds ⟨13, 0⟩ 3 (by decide) (by decide) (by decide) 2).1, hlater]
    rfl

/-- In the last minute that is represented no lease of five minutes can be
given, so that an action that is due is not handed out. -/
theorem claim_in_last_minute :
    ∃ (operations : List QueueOperation) (now : Instant) (limit : Int),
      (operations.filterMap QueueOperation.scheduled?).Nodup ∧ 1 ≤ limit ∧
        ((serve 300000000000 operations).2.due now).map DelayedAction.id =
          [postponed.id] ∧
        ((serve 300000000000 operations).2.claimDue now limit).1 = none := by
  refine ⟨[.schedule postponed],
    .ofDate ⟨Time.lastYear, 12, 31⟩ 86340 0, 1, by decide, by decide, ?_, ?_⟩
  · decide +kernel
  · rw [claimDue_eq]
    rfl

end DelayedQueue

end RecordRules
