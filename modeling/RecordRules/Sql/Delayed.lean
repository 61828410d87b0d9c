import RecordRules.Delay.Basic
import RecordRules.Sql.Connection

/-!
# Delayed actions in the database

The queue of delayed actions as a table.  Claimed rows are leased until an instant and skipped by
other workers in the meantime.
-/

namespace RecordRules.Sql

def readDelayed : RowReader DelayedAction := fun row => do
  return {
    id := ← column asId "id" row
    actionId := ← column asId "action_id" row
    ruleId := ← column asId "rule_id" row
    workflowId := ← column asId "workflow_id" row
    recordType := ← column asText "record_type" row
    recordId := ← column asText "record_id" row
    recordSnapshot := ← column asJson "record_snapshot" row
    actingUserId := ← nullable asText "acting_user_id" row
    tenantId := ← nullable asText "tenant_id" row
    runAt := ← column asTime "run_at" row
    createdAt := ← column asTime "created_at" row }

def scheduleDelayed (delayed : DelayedAction) : Query Unit := do
  let _ ← execute
    ("INSERT INTO workflow_delayed_actions (id, action_id, rule_id, workflow_id, record_type, "
      ++ "record_id, record_snapshot, acting_user_id, tenant_id, run_at, created_at) "
      ++ "VALUES ($1, $2, $3, $4, $5, $6, $7, $8, $9, $10, $11)")
    [.id delayed.id, .id delayed.actionId, .id delayed.ruleId, .id delayed.workflowId,
      .text delayed.recordType, .text delayed.recordId, .json delayed.recordSnapshot,
      .text? delayed.actingUserId, .text? delayed.tenantId, .time delayed.runAt,
      .time delayed.createdAt]
  return ()

/-- Claims due actions; breaks off when the end of the lease is no representable instant. -/
def claimDue (leaseSeconds : Int) (now : Time.Instant) (limit : Int) :
    Query (List DelayedAction) := do
  match now.addSeconds leaseSeconds with
  | none => ExceptT.lift Run.breakOff
  | some leaseEnd =>
    fetchAll readDelayed
      ("WITH claimable AS ( SELECT id FROM workflow_delayed_actions WHERE completed_at IS NULL "
        ++ "AND run_at <= $1 AND (lease_expires_at IS NULL OR lease_expires_at <= $1) "
        ++ "ORDER BY run_at LIMIT $2 FOR UPDATE SKIP LOCKED ) UPDATE workflow_delayed_actions "
        ++ "SET claimed_at = $1, lease_expires_at = $3 WHERE id IN (SELECT id FROM claimable) "
        ++ "RETURNING id, action_id, rule_id, workflow_id, record_type, record_id, "
        ++ "record_snapshot, acting_user_id, tenant_id, run_at, created_at")
      [.time now, .int limit, .time leaseEnd]

def completeDelayed (id : Uuid) : Query Unit := do
  let _ ← execute
    ("UPDATE workflow_delayed_actions SET completed_at = NOW(), lease_expires_at = NULL "
      ++ "WHERE id = $1")
    [.id id]
  return ()

end RecordRules.Sql
