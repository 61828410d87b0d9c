import RecordRules.FollowUp
import RecordRules.LogEntry
import RecordRules.Sql.Connection
import RecordRules.Workflow.Basic

/-!
# Workflows in the database

Workflows, rules and actions lie in three tables.  They are fetched one table after the other and
put together: a rule belongs to the workflow whose identifier it names, an action to the rule whose
identifier it names, both in the order in which the rows came.
-/

namespace RecordRules.Sql

/-- A row of the table of workflows. -/
structure WorkflowRow where
  id : Uuid
  name : String
  recordType : String
  triggerType : TriggerType
  schedule : Option String
  triggerFields : List String
  isActive : Bool
  executionOrder : Int
  stopOnMatch : Bool
  deriving DecidableEq, Repr, Inhabited

/-- A row of the table of rules, with the conditions as they are stored. -/
structure RuleRow where
  id : Uuid
  workflowId : Uuid
  name : String
  executionOrder : Int
  conditions : Json
  logic : LogicMode
  isActive : Bool
  deriving Repr, Inhabited

def readWorkflow : RowReader WorkflowRow := fun row => do
  return {
    id := ← column asId "id" row
    name := ← column asText "name" row
    recordType := ← column asText "record_type" row
    triggerType := ← labelled "TriggerType"
      [("on_create", .onCreate), ("on_update", .onUpdate), ("on_delete", .onDelete),
        ("scheduled", .scheduled), ("manual", .manual)] "trigger_type" row
    schedule := ← nullable asText "schedule" row
    triggerFields := ← column asTexts "trigger_fields" row
    isActive := ← column asBool "is_active" row
    executionOrder := ← column asInt "execution_order" row
    stopOnMatch := ← column asBool "stop_on_match" row }

def readRule : RowReader RuleRow := fun row => do
  return {
    id := ← column asId "id" row
    workflowId := ← column asId "workflow_id" row
    name := ← column asText "name" row
    executionOrder := ← column asInt "execution_order" row
    conditions := ← column asJson "conditions" row
    logic := ← labelled "LogicMode" [("all", .all), ("any", .any)] "logic" row
    isActive := ← column asBool "is_active" row }

def readAction : RowReader StoredAction := fun row => do
  return {
    id := ← column asId "id" row
    ruleId := ← column asId "rule_id" row
    name := ← column asText "name" row
    kind := ← column asText "kind" row
    executionOrder := ← column asInt "execution_order" row
    config := ← column asJson "config" row
    delayMinutes := ← column asInt "delay_minutes" row
    isActive := ← column asBool "is_active" row }

/-- The workflow of a row, with its rules. -/
def WorkflowRow.withRules (row : WorkflowRow) (rules : List Rule) : Workflow where
  id := row.id
  name := row.name
  recordType := row.recordType
  triggerType := row.triggerType
  schedule := row.schedule
  triggerFields := row.triggerFields
  isActive := row.isActive
  executionOrder := row.executionOrder
  stopOnMatch := row.stopOnMatch
  rules := rules

/-- The rule of a row, with its actions. -/
def RuleRow.withActions (row : RuleRow) (actions : List Action) : Rule where
  id := row.id
  workflowId := row.workflowId
  name := row.name
  executionOrder := row.executionOrder
  conditions := Condition.listOfStored row.conditions
  logic := row.logic
  isActive := row.isActive
  actions := actions

/-- Items gathered by the parents that they name; of each parent in the order in which they
came. -/
abbrev Families (α : Type) := List (Uuid × List α)

namespace Families

/-- Adds an item behind those that name the same parent. -/
def add (parent : Uuid) (item : α) : Families α → Families α
  | [] => [(parent, [item])]
  | (other, items) :: rest =>
    if other = parent then (other, items ++ [item]) :: rest
    else (other, items) :: add parent item rest

/-- Takes out the items of a parent; there are none when nothing names it. -/
def take (parent : Uuid) : Families α → List α × Families α
  | [] => ([], [])
  | (other, items) :: rest =>
    if other = parent then (items, rest)
    else
      let (taken, rest) := take parent rest
      (taken, (other, items) :: rest)

def gather (parent : α → Uuid) (items : List α) : Families α :=
  items.foldl (fun families item => families.add (parent item) item) []

/-- Gives each row in turn the items that name it, which are gone for the rows behind it. -/
def attach (id : ρ → Uuid) (withItems : ρ → List α → β) : Families α → List ρ → List β
  | _, [] => []
  | families, row :: rest =>
    let (items, families) := families.take (id row)
    withItems row items :: attach id withItems families rest

end Families

/-- Puts the rows of the three tables together. -/
def assemble (workflows : List WorkflowRow) (rules : List RuleRow) (actions : List StoredAction) :
    List Workflow :=
  let actions := Families.gather Action.ruleId (actions.map Action.ofStored)
  let rules := Families.gather Rule.workflowId
    (actions.attach RuleRow.id RuleRow.withActions rules)
  rules.attach WorkflowRow.id WorkflowRow.withRules workflows

def workflowColumns : String :=
  "id, name, record_type, trigger_type, schedule, trigger_fields, is_active, execution_order, "
    ++ "stop_on_match"

def actionColumns : String :=
  "id, rule_id, name, kind, execution_order, config, delay_minutes, is_active"

/-- Fetches the rules and actions of workflows. -/
def complete (workflows : List WorkflowRow) : Query (List Workflow) := do
  if workflows.isEmpty then return []
  let rules ← fetchAll readRule
    ("SELECT id, workflow_id, name, execution_order, conditions, logic, is_active "
      ++ "FROM workflow_rules WHERE workflow_id = ANY($1) ORDER BY execution_order ASC")
    [.ids (workflows.map WorkflowRow.id)]
  let actions ← fetchAll readAction
    ("SELECT " ++ actionColumns
      ++ " FROM workflow_actions WHERE rule_id = ANY($1) ORDER BY execution_order ASC")
    [.ids (rules.map RuleRow.id)]
  return assemble workflows rules actions

/-- The active workflows for a record type and a trigger. -/
def loadWorkflows (recordType : String) (trigger : TriggerType) : Query (List Workflow) := do
  complete (← fetchAll readWorkflow
    ("SELECT " ++ workflowColumns ++ " FROM workflows WHERE record_type = $1 "
      ++ "AND trigger_type = $2 AND is_active = true ORDER BY execution_order ASC, created_at ASC")
    [.text recordType, .text trigger.label])

/-- The active workflows that run by a schedule. -/
def scheduledWorkflows : Query (List Workflow) := do
  complete (← fetchAll readWorkflow
    ("SELECT " ++ workflowColumns ++ " FROM workflows WHERE trigger_type = $1 "
      ++ "AND is_active = true AND schedule IS NOT NULL ORDER BY execution_order ASC")
    [.text TriggerType.scheduled.label])

def loadWorkflow (id : Uuid) : Query (Option Workflow) := do
  let workflows ← complete (← fetchAll readWorkflow
    ("SELECT " ++ workflowColumns ++ " FROM workflows WHERE id = $1") [.id id])
  return workflows.getLast?

def loadAction (id : Uuid) : Query (Option Action) := do
  let row ← fetchFirst readAction
    ("SELECT " ++ actionColumns ++ " FROM workflow_actions WHERE id = $1") [.id id]
  return row.map Action.ofStored

def appendLog (entry : LogEntry) : Query Unit := do
  let _ ← execute
    ("INSERT INTO workflow_execution_logs (id, workflow_id, rule_id, action_id, record_type, "
      ++ "record_id, status, error_message, details, duration_ms, executed_at) "
      ++ "VALUES ($1, $2, $3, $4, $5, $6, $7, $8, $9, $10, $11)")
    [.id entry.id, .id entry.workflowId, .id? entry.ruleId, .id? entry.actionId,
      .text entry.recordType, .text entry.recordId, .text entry.status.label,
      .text? entry.errorMessage, .text? entry.details, .int entry.durationMs,
      .time entry.executedAt]
  return ()

/-- Stores a follow-up and gives its identifier. -/
def createFollowUp (followUp : FollowUp) : Query Uuid := do
  let _ ← execute
    ("INSERT INTO follow_ups (id, kind, subject, description, follow_up_type, priority, due_at, "
      ++ "assigned_to, link_field, linked_record_id, created_by, created_at) "
      ++ "VALUES ($1, $2, $3, $4, $5, $6, $7, $8, $9, $10, $11, $12)")
    [.id followUp.id, .text followUp.kind.label, .text followUp.subject,
      .text? followUp.description, .text? followUp.followUpType, .text followUp.priority,
      .time? followUp.dueAt, .text? followUp.assignedTo, .text followUp.linkField,
      .text followUp.linkedRecordId, .text? followUp.createdBy, .time followUp.createdAt]
  return followUp.id

def saveRecordChanges (recordType recordId : String) (changes : Fields) : Query Unit := do
  let _ ← execute
    ("UPDATE business_records SET fields = fields || $3, updated_at = NOW() "
      ++ "WHERE record_type = $1 AND id = $2")
    [.text recordType, .text recordId, .json (.object changes)]
  return ()

end RecordRules.Sql
