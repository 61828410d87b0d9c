import Mathlib.Data.List.Induction
import Mathlib.Data.List.Nodup
import RecordRules.Delay.Queue
import RecordRules.Proofs.InstantOrder
import RecordRules.Proofs.Places

/-!
# Leases exclude each other

Workers schedule, claim and complete delayed actions in any order, and by
clocks that may run apart or backwards.  Whatever a claim hands out has come
due, is handed out once, is not completed, and is held by no earlier claim whose
lease has not ended.
-/

namespace RecordRules

open Time (Instant)

/-- One operation of a worker on the queue. -/
inductive QueueOperation where
  | schedule (delayed : DelayedAction)
  | claim (now : Instant) (limit : Int)
  | complete (id : Uuid)

def QueueOperation.scheduled? : QueueOperation → Option Uuid
  | .schedule delayed => some delayed.id
  | _ => none

/-- An operation and what was handed out to the worker. -/
structure QueueEvent where
  operation : QueueOperation
  handed : List DelayedAction

namespace DelayedQueue

def Scheduled (events : List QueueEvent) (id : Uuid) : Prop :=
  ∃ event ∈ events, event.operation.scheduled? = some id

/-- An action of the identifier was scheduled and later completed. -/
def Completed (events : List QueueEvent) (id : Uuid) : Prop :=
  ∃ before handed after,
    events = before ++ ⟨.complete id, handed⟩ :: after ∧ Scheduled before id

/-- What is handed out after the events is handed out rightfully. -/
structure Rightful
    (lease : Int) (before : List QueueEvent) (event : QueueEvent) : Prop where
  /-- Only claims hand out anything, and only what has come due. -/
  due : ∀ delayed ∈ event.handed,
    ∃ now limit,
      event.operation = .claim now limit ∧ delayed.runAt.notAfter now = true
  /-- The leases of all earlier claims of the action have ended. -/
  expired : ∀ now limit, event.operation = .claim now limit →
    ∀ delayed ∈ event.handed, ∀ earlier ∈ before, ∀ past pastLimit,
      earlier.operation = .claim past pastLimit →
      ∀ claimed ∈ earlier.handed, claimed.id = delayed.id →
        ∃ leaseEnd,
          past.addNanos lease = some leaseEnd ∧ leaseEnd.notAfter now = true
  /-- Nothing is handed out twice. -/
  once : (event.handed.map DelayedAction.id).Nodup
  /-- Nothing is handed out that was completed. -/
  unfinished : ∀ delayed ∈ event.handed, ¬ Completed before delayed.id

/-- What an operation hands out, and the queue afterwards.  A claim whose lease
has no representable end breaks off and hands out nothing. -/
def perform (queue : DelayedQueue) :
    QueueOperation → List DelayedAction × DelayedQueue
  | .schedule delayed => ([], queue.schedule delayed)
  | .claim now limit =>
    ((queue.claimDue now limit).1.getD [], (queue.claimDue now limit).2)
  | .complete id => ([], queue.complete id)

/-- The events of operations in the order in which the queue lets them through,
and the queue afterwards, from an empty queue of a lease. -/
def serve (lease : Int) (operations : List QueueOperation) :
    List QueueEvent × DelayedQueue :=
  operations.foldl
    (fun served operation =>
      let (handed, queue) := served.2.perform operation
      (served.1 ++ [⟨operation, handed⟩], queue))
    ([], .ofLease lease)

theorem serve_snoc
    (lease : Int) (operations : List QueueOperation)
    (operation : QueueOperation) :
    serve lease (operations ++ [operation]) =
      ((serve lease operations).1 ++
          [⟨operation, ((serve lease operations).2.perform operation).1⟩],
        ((serve lease operations).2.perform operation).2) := by
  rw [serve, List.foldl_append]
  rfl

/-! ## What a claim does to the entries -/

section LeaseFirst

variable {now leaseEnd : Instant}

theorem leaseFirst_sublist (limit : Nat) (entries : List QueuedAction) :
    (leaseFirst now leaseEnd limit entries).1.Sublist
      (entries.map QueuedAction.delayed) := by
  fun_induction leaseFirst now leaseEnd limit entries with
  | case1 => exact .refl _
  | case2 => exact List.nil_sublist _
  | case3 limit entry rest hclaimable claimed later heq ih =>
      rw [heq] at ih
      exact ih.cons_cons entry.delayed
  | case4 limit entry rest hclaimable claimed later heq ih =>
      rw [heq] at ih
      exact ih.cons entry.delayed

theorem leaseFirst_map_delayed (limit : Nat) (entries : List QueuedAction) :
    (leaseFirst now leaseEnd limit entries).2.map QueuedAction.delayed =
      entries.map QueuedAction.delayed := by
  fun_induction leaseFirst now leaseEnd limit entries with
  | case1 => rfl
  | case2 => rfl
  | case3 limit entry rest hclaimable claimed later heq ih =>
      rw [heq] at ih
      simp [ih]
  | case4 limit entry rest hclaimable claimed later heq ih =>
      rw [heq] at ih
      simp [ih]

/-- What is handed out was claimable and is leased afterwards. -/
theorem leaseFirst_handed (limit : Nat) (entries : List QueuedAction) :
    ∀ delayed ∈ (leaseFirst now leaseEnd limit entries).1,
      (∃ entry ∈ entries,
        entry.delayed = delayed ∧ entry.isClaimable now = true) ∧
        ⟨delayed, some leaseEnd⟩ ∈
          (leaseFirst now leaseEnd limit entries).2 := by
  fun_induction leaseFirst now leaseEnd limit entries with
  | case1 => simp
  | case2 => simp
  | case3 limit entry rest hclaimable claimed later heq ih =>
      rw [heq] at ih
      intro delayed hmem
      rcases List.mem_cons.mp hmem with rfl | hmem
      · exact ⟨⟨entry, by simp, rfl, hclaimable⟩, by simp⟩
      · obtain ⟨⟨other, hother, hsame⟩, hlater⟩ := ih delayed hmem
        exact ⟨⟨other, List.mem_cons_of_mem entry hother, hsame⟩,
          List.mem_cons_of_mem _ hlater⟩
  | case4 limit entry rest hclaimable claimed later heq ih =>
      rw [heq] at ih
      intro delayed hmem
      obtain ⟨⟨other, hother, hsame⟩, hlater⟩ := ih delayed hmem
      exact ⟨⟨other, List.mem_cons_of_mem entry hother, hsame⟩,
        List.mem_cons_of_mem _ hlater⟩

/-- An entry is as it was before, or was claimable and is leased. -/
theorem leaseFirst_entries (limit : Nat) (entries : List QueuedAction) :
    ∀ entry ∈ (leaseFirst now leaseEnd limit entries).2,
      entry ∈ entries ∨
        entry.leaseEnd = some leaseEnd ∧
          ∃ earlier ∈ entries,
            earlier.delayed = entry.delayed ∧
              earlier.isClaimable now = true := by
  fun_induction leaseFirst now leaseEnd limit entries with
  | case1 => simp
  | case2 => exact fun entry hmem => .inl hmem
  | case3 limit head rest hclaimable claimed later heq ih =>
      rw [heq] at ih
      intro entry hmem
      rcases List.mem_cons.mp hmem with rfl | hmem
      · exact .inr ⟨rfl, head, by simp, rfl, hclaimable⟩
      · refine (ih entry hmem).imp (List.mem_cons_of_mem head) ?_
        rintro ⟨hleased, earlier, hearlier, hsame⟩
        exact ⟨hleased, earlier, List.mem_cons_of_mem head hearlier, hsame⟩
  | case4 limit head rest hclaimable claimed later heq ih =>
      rw [heq] at ih
      intro entry hmem
      rcases List.mem_cons.mp hmem with rfl | hmem
      · exact .inl (by simp)
      · refine (ih entry hmem).imp (List.mem_cons_of_mem head) ?_
        rintro ⟨hleased, earlier, hearlier, hsame⟩
        exact ⟨hleased, earlier, List.mem_cons_of_mem head hearlier, hsame⟩

end LeaseFirst

theorem mem_sorted (queue : DelayedQueue) (entry : QueuedAction) :
    entry ∈ queue.sorted.entries ↔ entry ∈ queue.entries :=
  List.mem_mergeSort

/-- A claim hands out nothing, or leases entries of the sorted queue. -/
theorem claimDue_eq (queue : DelayedQueue) (now : Instant) (limit : Int) :
    queue.claimDue now limit =
      match now.addNanos queue.lease with
      | none => (none, queue.sorted)
      | some leaseEnd =>
        (some (leaseFirst now leaseEnd limit.toNat queue.sorted.entries).1,
          ⟨(leaseFirst now leaseEnd limit.toNat queue.sorted.entries).2,
            queue.lease⟩) := rfl

/-! ## What every operation preserves -/

/-- What is known of the entries of the queue after the events. -/
structure Guards
    (lease : Int) (events : List QueueEvent) (queue : DelayedQueue) :
    Prop where
  sameLease : queue.lease = lease
  distinct :
    (queue.entries.map fun entry => entry.delayed.id).Nodup
  scheduled : ∀ entry ∈ queue.entries, Scheduled events entry.delayed.id
  /-- Whoever was handed an action was handed one that had been scheduled. -/
  known : ∀ event ∈ events, ∀ delayed ∈ event.handed,
    Scheduled events delayed.id
  /-- The lease of an entry does not end before that of any claim of it. -/
  held : ∀ event ∈ events, ∀ now limit, event.operation = .claim now limit →
    ∀ delayed ∈ event.handed, ∀ entry ∈ queue.entries,
      entry.delayed.id = delayed.id →
        ∃ claimEnd leaseEnd,
          now.addNanos lease = some claimEnd ∧
            entry.leaseEnd = some leaseEnd ∧
            claimEnd.notAfter leaseEnd = true
  gone : ∀ entry ∈ queue.entries, ¬ Completed events entry.delayed.id
  rightful : ∀ before event after,
    events = before ++ event :: after → Rightful lease before event

section Guards

variable {lease : Int} {events : List QueueEvent} {queue : DelayedQueue}

theorem Scheduled.snoc {id : Uuid} (h : Scheduled events id)
    (event : QueueEvent) : Scheduled (events ++ [event]) id := by
  obtain ⟨earlier, hmem, hid⟩ := h
  exact ⟨earlier, List.mem_append_left _ hmem, hid⟩

theorem Completed.of_snoc {id : Uuid} {event : QueueEvent}
    (h : Completed (events ++ [event]) id) :
    Completed events id ∨ event.operation = .complete id := by
  obtain ⟨before, handed, after, hplace, hscheduled⟩ := h
  rcases place_of_snoc hplace with ⟨-, rfl⟩ | ⟨rest, hrest⟩
  · exact .inr rfl
  · exact .inl ⟨before, handed, rest, hrest, hscheduled⟩

theorem mem_of_handed
    {operation : QueueOperation} {event : QueueEvent} {delayed : DelayedAction}
    (hevent : event ∈ events ++ [⟨operation, []⟩])
    (hdelayed : delayed ∈ event.handed) : event ∈ events := by
  rcases List.mem_append.mp hevent with hevent | hevent
  · exact hevent
  · obtain rfl := List.mem_singleton.mp hevent
    simp at hdelayed

theorem Rightful.of_none (operation : QueueOperation) :
    Rightful lease events ⟨operation, []⟩ where
  due := by simp
  expired := by simp
  once := by simp
  unfinished := by simp

theorem Guards.start (lease : Int) : Guards lease [] (.ofLease lease) where
  sameLease := rfl
  distinct := by simp [ofLease]
  scheduled := by simp [ofLease]
  known := by simp
  held := by simp
  gone := by simp [ofLease]
  rightful := by simp

theorem Guards.sorted (h : Guards lease events queue) :
    Guards lease events queue.sorted where
  sameLease := h.sameLease
  distinct :=
    ((List.mergeSort_perm queue.entries _).map _).nodup_iff.mpr h.distinct
  scheduled := fun entry hentry =>
    h.scheduled entry ((mem_sorted queue entry).mp hentry)
  known := h.known
  held := fun event hevent now limit hclaim delayed hdelayed entry hentry =>
    h.held event hevent now limit hclaim delayed hdelayed entry
      ((mem_sorted queue entry).mp hentry)
  gone := fun entry hentry =>
    h.gone entry ((mem_sorted queue entry).mp hentry)
  rightful := h.rightful

/-- An event that hands out nothing and takes entries away, if anything, keeps
the guards. -/
theorem Guards.silent
    (h : Guards lease events queue) {operation : QueueOperation}
    {entries : List QueuedAction} (hsublist : entries.Sublist queue.entries)
    (hcompleted : ∀ entry ∈ entries,
      operation ≠ .complete entry.delayed.id) :
    Guards lease (events ++ [⟨operation, []⟩]) ⟨entries, queue.lease⟩ where
  sameLease := h.sameLease
  distinct := (hsublist.map _).nodup h.distinct
  scheduled := fun entry hentry =>
    (h.scheduled entry (hsublist.subset hentry)).snoc _
  known := fun event hevent delayed hdelayed =>
    (h.known event (mem_of_handed hevent hdelayed) delayed hdelayed).snoc _
  held := fun event hevent now limit hclaim delayed hdelayed entry hentry =>
    h.held event (mem_of_handed hevent hdelayed) now limit hclaim delayed
      hdelayed entry (hsublist.subset hentry)
  gone := fun entry hentry hgone => by
    rcases hgone.of_snoc with hearlier | hnow
    · exact h.gone entry (hsublist.subset hentry) hearlier
    · exact hcompleted entry hentry hnow
  rightful := forall_places_snoc h.rightful (.of_none operation)

theorem Guards.complete (h : Guards lease events queue) (id : Uuid) :
    Guards lease (events ++ [⟨.complete id, []⟩]) (queue.complete id) := by
  refine h.silent List.filter_sublist fun entry hentry heq => ?_
  obtain rfl := QueueOperation.complete.inj heq
  simp at hentry

theorem Guards.schedule
    (h : Guards lease events queue) (delayed : DelayedAction)
    (hfresh : ¬ Scheduled events delayed.id) :
    Guards lease (events ++ [⟨.schedule delayed, []⟩])
      (queue.schedule delayed) := by
  have hkept :
      Guards lease (events ++ [⟨.schedule delayed, []⟩]) queue :=
    h.silent (.refl _) (by simp)
  have hentries :
      ∀ entry ∈ (queue.schedule delayed).entries,
        entry ∈ queue.entries ∨ entry = ⟨delayed, none⟩ := by
    simp [DelayedQueue.schedule]
  exact
    { sameLease := h.sameLease
      distinct := by
        have hnotMem :
            delayed.id ∉ queue.entries.map fun entry => entry.delayed.id := by
          intro hmem
          obtain ⟨entry, hentry, hid⟩ := List.mem_map.mp hmem
          exact hfresh (hid ▸ h.scheduled entry hentry)
        rw [DelayedQueue.schedule, List.map_append]
        exact List.Nodup.append h.distinct (List.nodup_singleton _)
          (List.disjoint_singleton.mpr hnotMem)
      scheduled := fun entry hentry => by
        rcases hentries entry hentry with hold | rfl
        · exact hkept.scheduled entry hold
        · exact ⟨_, List.mem_append_right _ List.mem_cons_self, rfl⟩
      known := hkept.known
      held := fun event hevent now limit hclaim claimed hclaimed entry hentry
          hid => by
        rcases hentries entry hentry with hold | rfl
        · exact hkept.held event hevent now limit hclaim claimed hclaimed entry
            hold hid
        · -- what was handed out before had been scheduled, and is not fresh
          have hknown := h.known event (mem_of_handed hevent hclaimed) claimed
            hclaimed
          rw [← hid] at hknown
          exact absurd hknown hfresh
      gone := fun entry hentry hgone => by
        rcases hentries entry hentry with hold | rfl
        · exact hkept.gone entry hold hgone
        · obtain ⟨before, _, after, hsplit, hscheduled⟩ :=
            hgone.of_snoc.resolve_right (by simp)
          obtain ⟨event, hevent, hid⟩ := hscheduled
          refine hfresh ⟨event, ?_, hid⟩
          rw [hsplit]
          exact List.mem_append_left _ hevent
      rightful := hkept.rightful }

theorem eq_of_same_id
    {entries : List QueuedAction}
    (hdistinct : (entries.map fun entry => entry.delayed.id).Nodup)
    {a b : QueuedAction} (ha : a ∈ entries) (hb : b ∈ entries)
    (hid : a.delayed.id = b.delayed.id) : a = b :=
  List.inj_on_of_nodup_map hdistinct ha hb hid

/-- A claim hands out rightfully what it leases. -/
theorem Guards.rightful_claim
    (h : Guards lease events queue) (now leaseEnd : Instant) (limit : Int)
    (count : Nat) :
    Rightful lease events
      ⟨.claim now limit, (leaseFirst now leaseEnd count queue.entries).1⟩ where
  due := fun delayed hdelayed => by
    obtain ⟨⟨entry, -, rfl, hclaimable⟩, -⟩ :=
      leaseFirst_handed count queue.entries delayed hdelayed
    rw [QueuedAction.isClaimable, Bool.and_eq_true] at hclaimable
    exact ⟨now, limit, rfl, hclaimable.1⟩
  expired := fun time _ htime delayed hdelayed earlier hearlier past pastLimit
      hpast claimed hclaimed hid => by
    obtain ⟨rfl, -⟩ := QueueOperation.claim.inj htime
    obtain ⟨⟨entry, hentry, rfl, hclaimable⟩, -⟩ :=
      leaseFirst_handed count queue.entries delayed hdelayed
    obtain ⟨claimEnd, heldUntil, hend, hheld, hbefore⟩ :=
      h.held earlier hearlier past pastLimit hpast claimed hclaimed entry hentry
        hid.symm
    rw [QueuedAction.isClaimable, Bool.and_eq_true, QueuedAction.isFree, hheld]
      at hclaimable
    exact ⟨claimEnd, hend, Instant.notAfter_trans hbefore hclaimable.2⟩
  once := by
    have hsublist :
        (leaseFirst now leaseEnd count queue.entries).1.Sublist
          (queue.entries.map QueuedAction.delayed) :=
      leaseFirst_sublist count queue.entries
    have hids := hsublist.map DelayedAction.id
    rw [List.map_map] at hids
    exact hids.nodup h.distinct
  unfinished := fun delayed hdelayed => by
    obtain ⟨⟨entry, hentry, rfl, -⟩, -⟩ :=
      leaseFirst_handed count queue.entries delayed hdelayed
    exact h.gone entry hentry

/-- A claim leases what it hands out beyond all earlier leases. -/
theorem Guards.leased
    (h : Guards lease events queue) (hlease : 0 ≤ lease) {now leaseEnd : Instant}
    (hend : now.addNanos lease = some leaseEnd) (limit : Int) (count : Nat) :
    Guards lease
      (events ++
        [⟨.claim now limit, (leaseFirst now leaseEnd count queue.entries).1⟩])
      ⟨(leaseFirst now leaseEnd count queue.entries).2, queue.lease⟩ := by
  have hids :
      (leaseFirst now leaseEnd count queue.entries).2.map
          (fun entry => entry.delayed.id) =
        queue.entries.map fun entry => entry.delayed.id := by
    have hdelayed :
        (leaseFirst now leaseEnd count queue.entries).2.map
            QueuedAction.delayed =
          queue.entries.map QueuedAction.delayed :=
      leaseFirst_map_delayed count queue.entries
    have hmapped := congrArg (List.map DelayedAction.id) hdelayed
    rw [List.map_map, List.map_map] at hmapped
    exact hmapped
  have hdistinct := h.distinct
  rw [← hids] at hdistinct
  -- every entry is one of an action that was in the queue before
  have hearlier :
      ∀ entry ∈ (leaseFirst now leaseEnd count queue.entries).2,
        ∃ earlier ∈ queue.entries, earlier.delayed = entry.delayed := by
    intro entry hentry
    rcases leaseFirst_entries count queue.entries entry hentry with
      hold | ⟨-, earlier, hmem, hsame, -⟩
    · exact ⟨entry, hold, rfl⟩
    · exact ⟨earlier, hmem, hsame⟩
  exact
    { sameLease := h.sameLease
      distinct := hdistinct
      scheduled := fun entry hentry => by
        obtain ⟨earlier, hmem, hsame⟩ := hearlier entry hentry
        rw [← hsame]
        exact (h.scheduled earlier hmem).snoc _
      known := fun event hevent delayed hdelayed => by
        rcases List.mem_append.mp hevent with hevent | hevent
        · exact (h.known event hevent delayed hdelayed).snoc _
        · obtain rfl := List.mem_singleton.mp hevent
          obtain ⟨⟨entry, hentry, rfl, -⟩, -⟩ :=
            leaseFirst_handed count queue.entries delayed hdelayed
          exact (h.scheduled entry hentry).snoc _
      held := fun event hevent past pastLimit hclaim delayed hdelayed entry
          hentry hid => by
        rcases List.mem_append.mp hevent with hevent | hevent
        · rcases leaseFirst_entries count queue.entries entry hentry with
            hold | ⟨hleased, earlier, hmem, hsame, hclaimable⟩
          · exact h.held event hevent past pastLimit hclaim delayed hdelayed
              entry hold hid
          · -- the new lease begins when the old one has ended
            rw [← hsame] at hid
            obtain ⟨claimEnd, heldUntil, hpast, hheld, hbefore⟩ :=
              h.held event hevent past pastLimit hclaim delayed hdelayed earlier
                hmem hid
            rw [QueuedAction.isClaimable, Bool.and_eq_true,
              QueuedAction.isFree, hheld] at hclaimable
            have hnow := Instant.notAfter_trans hbefore hclaimable.2
            exact ⟨claimEnd, leaseEnd, hpast, hleased,
              Instant.notAfter_trans hnow
                (Instant.notAfter_of_addNanos hlease hend)⟩
        · obtain rfl := List.mem_singleton.mp hevent
          obtain ⟨rfl, -⟩ := QueueOperation.claim.inj hclaim
          obtain ⟨-, hleased⟩ :=
            leaseFirst_handed count queue.entries delayed hdelayed
          obtain rfl := eq_of_same_id hdistinct hentry hleased hid
          exact ⟨leaseEnd, leaseEnd, hend, rfl, Instant.notAfter_refl _⟩
      gone := fun entry hentry hgone => by
        obtain ⟨earlier, hmem, hsame⟩ := hearlier entry hentry
        rw [← hsame] at hgone
        exact h.gone earlier hmem (hgone.of_snoc.resolve_right (by simp))
      rightful :=
        forall_places_snoc h.rightful (h.rightful_claim now leaseEnd limit count) }

theorem Guards.claim
    (h : Guards lease events queue) (hlease : 0 ≤ lease) (now : Instant)
    (limit : Int) :
    Guards lease
      (events ++ [⟨.claim now limit, (queue.perform (.claim now limit)).1⟩])
      (queue.perform (.claim now limit)).2 := by
  rw [perform, claimDue_eq, h.sameLease]
  cases hend : now.addNanos lease with
  | none => exact h.sorted.silent (.refl _) (by simp)
  | some leaseEnd =>
      have hleased := h.sorted.leased hlease hend limit limit.toNat
      rw [h.sorted.sameLease] at hleased
      exact hleased

/-- Every operation keeps the guards, as long as only fresh identifiers are
scheduled. -/
theorem Guards.perform
    (h : Guards lease events queue) (hlease : 0 ≤ lease)
    (operation : QueueOperation)
    (hfresh : ∀ id, operation.scheduled? = some id → ¬ Scheduled events id) :
    Guards lease (events ++ [⟨operation, (queue.perform operation).1⟩])
      (queue.perform operation).2 := by
  cases operation with
  | schedule delayed => exact h.schedule delayed (hfresh delayed.id rfl)
  | claim now limit => exact h.claim hlease now limit
  | complete id => exact h.complete id

end Guards

/-! ## Runs of the queue -/

theorem map_operation_serve (lease : Int) (operations : List QueueOperation) :
    (serve lease operations).1.map QueueEvent.operation = operations := by
  induction operations using List.reverseRecOn with
  | nil => rfl
  | append_singleton operations operation ih =>
      rw [serve_snoc, List.map_append, ih]
      rfl

theorem guards_serve
    {lease : Int} (hlease : 0 ≤ lease) {operations : List QueueOperation}
    (hdistinct :
      (operations.filterMap QueueOperation.scheduled?).Nodup) :
    Guards lease (serve lease operations).1 (serve lease operations).2 := by
  induction operations using List.reverseRecOn with
  | nil => exact .start lease
  | append_singleton operations operation ih =>
      rw [List.filterMap_append, List.nodup_append'] at hdistinct
      obtain ⟨hearlier, -, hdisjoint⟩ := hdistinct
      rw [serve_snoc]
      refine (ih hearlier).perform hlease operation fun id hid => ?_
      rintro ⟨event, hevent, hscheduled⟩
      have hoperation : event.operation ∈ operations := by
        rw [← map_operation_serve lease operations]
        exact List.mem_map_of_mem hevent
      refine hdisjoint (a := id) ?_ ?_
      · exact List.mem_filterMap.mpr ⟨event.operation, hoperation, hscheduled⟩
      · simp [hid]

/-- However workers interleave their operations and whatever their clocks say,
every claim hands out rightfully, if leases are not negative and no identifier
is scheduled twice. -/
theorem serve_rightful
    (lease : Int) (operations : List QueueOperation) (hlease : 0 ≤ lease)
    (hdistinct : (operations.filterMap QueueOperation.scheduled?).Nodup) :
    ∀ before event after,
      (serve lease operations).1 = before ++ event :: after →
        Rightful lease before event :=
  (guards_serve hlease hdistinct).rightful

/-- An action that was put off until the beginning of 1970. -/
def postponed : DelayedAction :=
  { id := .numbered 1
    actionId := .nil
    ruleId := .nil
    workflowId := .nil
    recordType := "Ticket"
    recordId := "t-1"
    recordSnapshot := .null
    actingUserId := none
    tenantId := none
    runAt := ⟨0, 0⟩
    createdAt := ⟨0, 0⟩ }

/-- A claim is renewed when its lease of five seconds has ended, and not
before. -/
theorem serve_rightful_renewal :
    let operations : List QueueOperation :=
      [.schedule postponed, .claim ⟨0, 0⟩ 9, .claim ⟨4, 999999999⟩ 9,
        .claim ⟨5, 0⟩ 9]
    (∀ before event after,
      (serve 5000000000 operations).1 = before ++ event :: after →
        Rightful 5000000000 before event) ∧
      (serve 5000000000 operations).1.map
          (fun event => event.handed.map DelayedAction.id) =
        [[], [postponed.id], [], [postponed.id]] := by
  intro operations
  exact ⟨serve_rightful 5000000000 operations (by decide) (by decide),
    by decide +kernel⟩

/-- To complete an action that is not in the queue has no effect: when it is
scheduled afterwards, it is handed out. -/
theorem completed_too_early :
    ∃ operations : List QueueOperation,
      (operations.filterMap QueueOperation.scheduled?).Nodup ∧
        ∃ before event after,
          (serve 0 operations).1 = before ++ event :: after ∧
            ∃ delayed ∈ event.handed, ∃ earlier ∈ before,
              earlier.operation = .complete delayed.id := by
  refine ⟨[.complete postponed.id, .schedule postponed, .claim ⟨0, 0⟩ 1],
    by decide, [⟨.complete postponed.id, []⟩, ⟨.schedule postponed, []⟩],
    ⟨.claim ⟨0, 0⟩ 1, [postponed]⟩, [], ?_, postponed, by simp,
    ⟨.complete postponed.id, []⟩, by simp, rfl⟩
  have hclaimed :
      (DelayedQueue.mk [⟨postponed, none⟩] 0).perform (.claim ⟨0, 0⟩ 1) =
        ([postponed], ⟨[⟨postponed, some ⟨0, 0⟩⟩], 0⟩) := by
    have hend : Instant.addNanos ⟨0, 0⟩ 0 = some ⟨0, 0⟩ := by decide
    rw [perform, claimDue_eq, sorted, List.mergeSort_singleton]
    dsimp only
    rw [hend]
    rfl
  change
    [QueueEvent.mk (.complete postponed.id) [],
      QueueEvent.mk (.schedule postponed) [],
      QueueEvent.mk (.claim ⟨0, 0⟩ 1)
        ((DelayedQueue.mk [⟨postponed, none⟩] 0).perform
          (.claim ⟨0, 0⟩ 1)).1] = _
  rw [hclaimed]
  rfl

end DelayedQueue

end RecordRules
