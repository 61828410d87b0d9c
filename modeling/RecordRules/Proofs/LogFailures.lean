import Mathlib.Data.List.Induction
import RecordRules.Proofs.AgreeingRuns

/-!
# Failures of the log change nothing else

Entries are handed to the log, and whether they get there is not looked at.  So
a run beside a log that fails, now and then or always, is the run beside one
that never does, but for the entries that are missing from the log.
-/

namespace RecordRules

open Host (Acts Effect Scope Unseen)
open Run (Agrees)

/-- The plan without failures of the log; calls to it may still break off, or
cancel the run. -/
def FaultPlan.keepingLog (plan : FaultPlan) : FaultPlan := fun method index =>
  if method = .appendLog ∧ plan method index = .error then .none
  else plan method index

theorem FaultPlan.keepingLog_eq_iff
    (plan : FaultPlan) (index : Nat) {disturbance : Disturbance}
    (hnone : disturbance ≠ .none) (herror : disturbance ≠ .error) :
    plan.keepingLog .appendLog index = disturbance ↔
      plan .appendLog index = disturbance := by
  unfold keepingLog
  by_cases hfails : plan .appendLog index = .error
  · simp [hfails, Ne.symm hnone, Ne.symm herror]
  · simp [hfails]

namespace Host

def keepingLog (host : Host) : Host :=
  host.withLog host.faults.keepingLog host.store.logs false

/-- Does the entry get into the log that the call of that number hands to it? -/
def takesEntry (host : Host) (index : Nat) : Bool :=
  match host.faults .appendLog index with
  | .error => false
  | .panic => false
  | _ => !host.store.logWritesFail

theorem takesEntry_keepingLog
    {host : Host} {index : Nat}
    (hpanic : host.faults .appendLog index ≠ .panic) :
    host.keepingLog.takesEntry index = true := by
  have htakes : host.keepingLog.takesEntry index =
      match host.faults.keepingLog .appendLog index with
      | .error => false
      | .panic => false
      | _ => true := rfl
  rw [htakes]
  unfold FaultPlan.keepingLog
  cases hdisturbance : host.faults .appendLog index with
  | panic => exact absurd hdisturbance hpanic
  | _ => rfl

/-- Of entries that are handed to the log one after another, those that get
there. -/
def taken (host : Host) (handed : List LogEntry) : List LogEntry :=
  (handed.zipIdx (host.calls .appendLog)).filterMap fun (entry, index) =>
    if host.takesEntry index then some entry else none

theorem taken_snoc
    (host : Host) (handed : List LogEntry) (entry : LogEntry) :
    host.taken (handed ++ [entry]) =
      host.taken handed ++
        if host.takesEntry (host.calls .appendLog + handed.length) then [entry]
        else [] := by
  rw [taken, List.zipIdx_append, List.filterMap_append]
  congr 1
  cases htakes :
      host.takesEntry (host.calls .appendLog + handed.length) <;>
    simp [htakes]

theorem taken_of_takesEntry
    {host : Host} (htakes : ∀ index, host.takesEntry index = true)
    (handed : List LogEntry) :
    host.taken handed = handed := by
  induction handed using List.reverseRecOn with
  | nil => rfl
  | append_singleton handed entry ih =>
      rw [taken_snoc, ih, if_pos (htakes _)]

end Host

theorem storeEntry_withLog (entry : LogEntry) (host : Host) :
    ∃ answer,
      (Host.storeEntry entry).run host =
        (.value answer,
          host.withLog host.faults
            (host.store.logs ++
              if host.store.logWritesFail then [] else [entry])
            host.store.logWritesFail) := by
  rw [storeEntry_apply]
  cases hfails : host.store.logWritesFail with
  | true =>
      refine ⟨_, congrArg (Prod.mk _) ?_⟩
      simp [Host.withLog, ← hfails]
  | false =>
      refine ⟨_, congrArg (Prod.mk _) ?_⟩
      simp [Host.withLog, ← hfails, Effect.apply, WorkflowStore.appendLog]

/-- What handing an entry to the log comes to. -/
theorem writeLog_apply (entry : LogEntry) (host : Host) :
    let disturbance := host.faults .appendLog (host.calls .appendLog)
    writeLog entry host =
      (if disturbance = .panic then .panic else .value (),
        ((host.counted .appendLog).withPatience
          (if disturbance = .cancel then some 0
          else host.patience)).withLog host.faults
            (host.store.logs ++
              if host.takesEntry (host.calls .appendLog) then [entry] else [])
            host.store.logWritesFail) := by
  dsimp only
  have hcall :=
    Host.callEither_run_apply .appendLog (Host.storeEntry entry)
      (Host.storeEntry entry) host
  -- a call that is answered by the store, from patience as it may be by then
  have hanswered : ∀ patience,
      (Host.appendLog entry).run host =
          (Host.storeEntry entry).run
            ((host.counted .appendLog).withPatience patience) →
        writeLog entry host =
          (.value (),
            ((host.counted .appendLog).withPatience patience).withLog
              host.faults
              (host.store.logs ++
                if host.store.logWritesFail then [] else [entry])
              host.store.logWritesFail) := by
    intro patience hrun
    obtain ⟨answer, hstored⟩ :=
      storeEntry_withLog entry
        ((host.counted .appendLog).withPatience patience)
    exact Run.bind_of_value (hrun.trans hstored) _
  have htakes : host.takesEntry (host.calls .appendLog) =
      match host.faults .appendLog (host.calls .appendLog) with
      | .error => false
      | .panic => false
      | _ => !host.store.logWritesFail := rfl
  cases hdisturbance : host.faults .appendLog (host.calls .appendLog) with
  | none =>
      rw [hdisturbance] at hcall htakes
      rw [hanswered host.patience hcall, htakes]
      cases host.store.logWritesFail <;> rfl
  | unfiltered =>
      rw [hdisturbance] at hcall htakes
      rw [hanswered host.patience hcall, htakes]
      cases host.store.logWritesFail <;> rfl
  | cancel =>
      rw [hdisturbance] at hcall htakes
      rw [hanswered (some 0) hcall, htakes]
      cases host.store.logWritesFail <;> rfl
  | error =>
      rw [hdisturbance] at hcall htakes
      have hwrite : writeLog entry host = _ := Run.bind_of_value hcall _
      rw [hwrite, htakes]
      simp [Host.withLog, Host.withPatience, Host.counted]
  | panic =>
      rw [hdisturbance] at hcall htakes
      have hwrite : writeLog entry host = _ := Run.bind_of_panic hcall _
      rw [hwrite, htakes]
      simp [Host.withLog, Host.withPatience, Host.counted]

/-! ## Side by side -/

/-- Since the start entries have been handed to two logs, of which one never
fails; nothing else differs. -/
structure FailsBeside
    (start : Host) (handed : List LogEntry) (kept failing : Host) : Prop where
  faults : kept.faults = start.faults.keepingLog
  writes : kept.store.logWritesFail = false
  calls : kept.calls .appendLog = start.calls .appendLog + handed.length
  logs : kept.store.logs = start.store.logs ++ start.keepingLog.taken handed
  beside : failing =
    kept.withLog start.faults (start.store.logs ++ start.taken handed)
      start.store.logWritesFail

def Failing (start kept failing : Host) : Prop :=
  ∃ handed, FailsBeside start handed kept failing

variable {start kept failing : Host} {handed : List LogEntry}

theorem FailsBeside.refl (start : Host) :
    FailsBeside start [] start.keepingLog start where
  faults := rfl
  writes := rfl
  calls := rfl
  logs := (List.append_nil _).symm
  beside := by
    have hlogs : start.store.logs ++ start.taken [] = start.store.logs :=
      List.append_nil _
    rw [hlogs]
    rfl

/-- A change that leaves the log alone keeps the two side by side. -/
theorem FailsBeside.change
    (h : FailsBeside start handed kept failing) (f : Host → Host)
    (hwithLog : ∀ host faults logs fails,
      f (host.withLog faults logs fails) = (f host).withLog faults logs fails)
    (hfaults : (f kept).faults = kept.faults)
    (hstore : (f kept).store.logs = kept.store.logs ∧
      (f kept).store.logWritesFail = kept.store.logWritesFail)
    (hcalls : (f kept).calls .appendLog = kept.calls .appendLog) :
    FailsBeside start handed (f kept) (f failing) where
  faults := hfaults.trans h.faults
  writes := hstore.2.trans h.writes
  calls := hcalls.trans h.calls
  logs := hstore.1.trans h.logs
  beside := by rw [h.beside, hwithLog]

/-- What leaves the log alone cannot tell which log fails. -/
theorem unseen_failures
    {scope : Scope} (hlogs : ¬ scope.logs)
    (hleaves : ∀ effect, scope.leaves effect → ¬ effect.OfLog) (start : Host) :
    Unseen scope (Failing start) where
  hidden := by
    rintro kept _ ⟨handed, h⟩
    exact ⟨kept.calls, kept.patience, kept.store.workflows, _, _, _, h.beside,
      fun _ => rfl, fun hsees => absurd hsees hlogs⟩
  disturbed := by
    rintro kept _ ⟨handed, h⟩ method hmethod
    have hother : method ≠ .appendLog := fun hlog => hlogs (hmethod hlog)
    rw [h.beside, h.faults]
    simp [Host.withLog, FaultPlan.keepingLog, hother]
  counted := by
    rintro kept _ ⟨handed, h⟩ method hmethod
    have hother : Method.appendLog ≠ method :=
      fun hlog => hlogs (hmethod hlog.symm)
    exact ⟨handed, h.change (fun host => host.counted method)
      (fun _ _ _ _ => rfl) rfl ⟨rfl, rfl⟩ (if_neg hother)⟩
  cancelled := by
    rintro kept _ ⟨handed, h⟩
    exact ⟨handed, h.change (fun host => host.withPatience (some 0))
      (fun _ _ _ _ => rfl) rfl ⟨rfl, rfl⟩ rfl⟩
  minted := by
    rintro kept _ ⟨handed, h⟩ ids
    exact ⟨handed, h.change (fun host => { host with ids })
      (fun _ _ _ _ => rfl) rfl ⟨rfl, rfl⟩ rfl⟩
  left := by
    rintro kept _ ⟨handed, h⟩ effect heffect
    have hnoLog := hleaves effect heffect
    refine ⟨handed, ?_⟩
    cases effect with
    | logged entry => exact absurd trivial hnoLog
    | _ =>
        exact h.change (fun host => Effect.apply host _)
          (fun _ _ _ _ => rfl) rfl ⟨rfl, rfl⟩ rfl

theorem agrees_writeLog (start : Host) (entry : LogEntry) :
    Agrees (Failing start) (writeLog entry) := by
  rintro kept failing ⟨handed, h⟩
  let index := start.calls .appendLog + handed.length
  have hkept : kept.calls .appendLog = index := h.calls
  have hfailing : failing.calls .appendLog = index := by
    rw [h.beside]
    exact hkept
  have hfaults : failing.faults = start.faults := by
    rw [h.beside]
    rfl
  have htakesKept :
      kept.takesEntry index = start.keepingLog.takesEntry index := by
    simp only [Host.takesEntry, h.faults, h.writes]
    rfl
  have htakesFailing : failing.takesEntry index = start.takesEntry index := by
    rw [h.beside]
    rfl
  have hpanic :=
    start.faults.keepingLog_eq_iff index
      (show Disturbance.panic ≠ .none by decide) (by decide)
  have hcancel :=
    start.faults.keepingLog_eq_iff index
      (show Disturbance.cancel ≠ .none by decide) (by decide)
  have hpatience : failing.patience = kept.patience := by
    rw [h.beside]
    rfl
  rw [writeLog_apply, writeLog_apply, hkept, hfailing, htakesKept,
    htakesFailing, h.faults, hfaults, hpatience]
  -- both break off or neither does; then one more entry has been handed to both,
  -- and each has taken it or not by its own plan
  simp only [hpanic, hcancel]
  refine ⟨trivial, handed ++ [entry], ?_⟩
  exact
    { faults := rfl
      writes := h.writes
      calls := by
        rw [List.length_append, List.length_singleton, ← Nat.add_assoc,
          ← h.calls]
        rfl
      logs := by
        rw [Host.taken_snoc, ← List.append_assoc, ← h.logs]
        rfl
      beside := by
        rw [Host.taken_snoc, ← List.append_assoc, h.beside]
        rfl }

theorem cannotTell_failures (start : Host) :
    Engine.CannotTell (Failing start) := by
  have hacts : ∀ {α : Type} {scope : Scope} {x : Run Host α},
      Acts scope x → ¬ scope.logs →
        (∀ effect, scope.leaves effect → ¬ effect.OfLog) →
          Agrees (Failing start) x :=
    fun hx hlogs hleaves => hx.unseen (unseen_failures hlogs hleaves start)
  exact
    { isCancelled := by
        rintro context kept failing ⟨handed, h⟩
        rw [Host.isCancelled_apply, Host.isCancelled_apply]
        have hpatience : failing.patience = kept.patience := by
          rw [h.beside]
          rfl
        refine ⟨?_, handed, ?_⟩
        · simp only [Host.givesUp, hpatience]
        · simp only [Host.patienceLeft, hpatience]
          exact h.change (fun host => host.withPatience _)
            (fun _ _ _ _ => rfl) rfl ⟨rfl, rfl⟩ rfl
      newEntry := fun _ _ _ _ =>
        hacts (acts_newEntry _ _ _ _) id fun _ hnone => hnone.elim
      writeLog := agrees_writeLog start
      execute := fun action record context =>
        hacts (Execution.acts_execute action record context) id
          fun _ => Effect.OfAction.not_ofLog
      executeNow := fun action record context =>
        hacts (Execution.acts_executeNow action record context) id
          fun _ heffect => heffect.ofAction.not_ofLog
      saveWrites := fun record =>
        hacts (acts_saveWrites record) id fun _ => Effect.OfSave.not_ofLog
      applicable := fun recordType trigger =>
        hacts (Engine.acts_applicable recordType trigger) id
          fun _ hnone => hnone.elim
      loadAction := fun actionId =>
        hacts (Host.acts_loadAction actionId) id fun _ hnone => hnone.elim }

namespace Engine

/-- Whichever entries the log fails to take, a request ends as it does beside a
log that never fails, and leaves everything else as it is then.  In the log are,
of the entries that are handed to it one after another, those that it takes;
without calls that break off, the log that never fails has all of them. -/
theorem log_failures_only_lose_entries
    (engine : Engine) (request : Request) (host : Host) :
    let kept := engine.handle request host.keepingLog
    ∃ handed : List LogEntry,
      engine.handle request host =
          (kept.1,
            kept.2.withLog host.faults
              (host.store.logs ++ host.taken handed)
              host.store.logWritesFail) ∧
        kept.2.calls .appendLog =
          host.calls .appendLog + handed.length ∧
        kept.2.store.logs =
          host.store.logs ++ host.keepingLog.taken handed ∧
        ((∀ index, host.faults .appendLog index ≠ .panic) →
          kept.2.store.logs = host.store.logs ++ handed) := by
  intro kept
  obtain ⟨hending, handed, h⟩ :=
    agrees_handle (cannotTell_failures host) engine request host.keepingLog
      host ⟨[], .refl host⟩
  refine ⟨handed, Prod.ext hending h.beside, h.calls, h.logs, ?_⟩
  intro hpanic
  rw [h.logs, Host.taken_of_takesEntry fun index =>
    Host.takesEntry_keepingLog (hpanic index)]

end Engine

end RecordRules
