import RecordRules.Delay.Basic

/-!
# The queue of delayed actions

Delayed actions that wait for their time.  A claim hands out actions that have come due and leases
them to the caller; an action that is not completed before its lease ends can be claimed again.
-/

namespace RecordRules

/-- A waiting action, with the end of its lease once it has been claimed. -/
structure QueuedAction where
  delayed : DelayedAction
  leaseEnd : Option Time.Instant
  deriving Repr, Inhabited

namespace QueuedAction

/-- Has no lease been given that lasts beyond an instant? -/
def isFree (entry : QueuedAction) (now : Time.Instant) : Bool :=
  match entry.leaseEnd with
  | some leaseEnd => leaseEnd.notAfter now
  | none => true

/-- Has the action come due, and is it free? -/
def isClaimable (entry : QueuedAction) (now : Time.Instant) : Bool :=
  entry.delayed.runAt.notAfter now && entry.isFree now

/-- Does the first action not run after the second? -/
def notAfter (a b : QueuedAction) : Bool := a.delayed.runAt.notAfter b.delayed.runAt

end QueuedAction

/-- Waiting actions, and for how many nanoseconds a claim leases them. -/
structure DelayedQueue where
  entries : List QueuedAction
  lease : Int
  deriving Repr, Inhabited

namespace DelayedQueue

/-- A queue without actions. -/
def ofLease (lease : Int) : DelayedQueue := ⟨[], lease⟩

/-- A queue without actions whose claims last so many seconds. -/
def empty (leaseSeconds : Int) : DelayedQueue :=
  ofLease (leaseSeconds * Time.Instant.nanosPerSecond)

/-- The actions not yet completed, claimed or not. -/
def pending (queue : DelayedQueue) : List DelayedAction :=
  queue.entries.map QueuedAction.delayed

/-- Adds an action that has not been claimed. -/
def schedule (queue : DelayedQueue) (delayed : DelayedAction) : DelayedQueue :=
  { queue with entries := queue.entries ++ [⟨delayed, none⟩] }

def complete (queue : DelayedQueue) (id : Uuid) : DelayedQueue :=
  { queue with entries := queue.entries.filter fun entry => entry.delayed.id != id }

/-- The queue in the order in which its actions run; ties stay as they are. -/
def sorted (queue : DelayedQueue) : DelayedQueue :=
  { queue with entries := queue.entries.mergeSort QueuedAction.notAfter }

/-- Leases the first claimable entries, no more than a limit: the actions handed out, and all
entries afterwards. -/
def leaseFirst (now leaseEnd : Time.Instant) :
    Nat → List QueuedAction → List DelayedAction × List QueuedAction
  | _, [] => ([], [])
  | 0, entry :: rest => ([], entry :: rest)
  | limit + 1, entry :: rest =>
    if entry.isClaimable now then
      let (claimed, later) := leaseFirst now leaseEnd limit rest
      (entry.delayed :: claimed, { entry with leaseEnd := some leaseEnd } :: later)
    else
      let (claimed, later) := leaseFirst now leaseEnd (limit + 1) rest
      (claimed, entry :: later)

/-- Claims actions that have come due, the earliest first; nothing is handed out when the end of
the lease is no representable instant. -/
def claimDue (queue : DelayedQueue) (now : Time.Instant) (limit : Int) :
    Option (List DelayedAction) × DelayedQueue :=
  let queue := queue.sorted
  match now.addNanos queue.lease with
  | none => (none, queue)
  | some leaseEnd =>
    let (claimed, entries) := leaseFirst now leaseEnd limit.toNat queue.entries
    (some claimed, { queue with entries })

end DelayedQueue

end RecordRules
