import RecordRules.Action.Basic
import RecordRules.Condition.Basic
import RecordRules.Status

/-!
# Workflows

A workflow binds rules to a record type and a trigger; a rule has conditions and the actions to
run when they hold.  Both are taken up in order of their execution order, and only when active.
-/

namespace RecordRules

/-- Conditions and the actions to run when they hold. -/
structure Rule where
  id : Uuid
  workflowId : Uuid
  name : String
  executionOrder : Int
  conditions : List Condition
  logic : LogicMode
  isActive : Bool
  actions : List Action
  deriving Repr, Inhabited

namespace Rule

/-- An active rule without conditions and actions. -/
def ofName (id : Uuid) (name : String) : Rule := ⟨id, Uuid.nil, name, 0, [], .all, true, []⟩

/-- The rule with one more action, which then points back at it. -/
def withAction (rule : Rule) (action : Action) : Rule :=
  { rule with actions := rule.actions ++ [{ action with ruleId := rule.id }] }

/-- The active actions in execution order; ties stay as they are. -/
def activeActions (rule : Rule) : List Action :=
  (rule.actions.filter Action.isActive).mergeSort fun a b =>
    decide (a.executionOrder ≤ b.executionOrder)

/-- Points the actions back at the rule. -/
def linkActions (rule : Rule) : Rule :=
  { rule with actions := rule.actions.map fun action => { action with ruleId := rule.id } }

open Json (required defaulted need decodeText decodeInt32 decodeBool decodeAny decodeId)

def shape : Json.Shape :=
  ⟨"Rule",
   [defaulted "id" decodeId, defaulted "workflow_id" decodeId, required "name" decodeText,
    defaulted "execution_order" decodeInt32, defaulted "conditions" decodeAny,
    defaulted "logic" LogicMode.ofJson, defaulted "is_active" decodeBool,
    ⟨"actions", [], mintRefusal (decodeMinted Action.ofJson), true⟩]⟩

def ofJson (json : Json) : Minting Rule := do
  let fields ← shape.read json
  return {
    id := ← idOrMint fields "id"
    workflowId := ← Json.orElse fields "workflow_id" Uuid.nil decodeId
    name := ← need fields "name" decodeText
    executionOrder := ← Json.orElse fields "execution_order" 0 decodeInt32
    conditions := ← Json.orElse fields "conditions" [] fun raw => .ok (Condition.listOfStored raw)
    logic := ← Json.orElse fields "logic" .all LogicMode.ofJson
    isActive := ← Json.orElse fields "is_active" true decodeBool
    actions := ← decodeMinted Action.ofJson ((Fields.get? "actions" fields).getD (.array [])) }

def toJson (rule : Rule) : Json :=
  .object [("actions", Json.ofList Action.toJson rule.actions),
    ("conditions", Json.ofList Condition.toJson rule.conditions),
    ("execution_order", .int rule.executionOrder), ("id", rule.id.toJson),
    ("is_active", .bool rule.isActive), ("logic", rule.logic.toJson),
    ("name", .string rule.name), ("workflow_id", rule.workflowId.toJson)]

end Rule

/-- A named automation for a record type and a trigger.  The monitored fields count for updates
only, the schedule for scheduled workflows only. -/
structure Workflow where
  id : Uuid
  name : String
  recordType : String
  triggerType : TriggerType
  schedule : Option String
  triggerFields : List String
  isActive : Bool
  executionOrder : Int
  stopOnMatch : Bool
  rules : List Rule
  deriving Repr, Inhabited

namespace Workflow

/-- An active workflow without rules. -/
def ofName (id : Uuid) (name recordType : String) (triggerType : TriggerType) : Workflow where
  id := id
  name := name
  recordType := recordType
  triggerType := triggerType
  schedule := none
  triggerFields := []
  isActive := true
  executionOrder := 0
  stopOnMatch := false
  rules := []

/-- The workflow with one more rule, which then points back at it. -/
def withRule (workflow : Workflow) (rule : Rule) : Workflow :=
  { workflow with rules := workflow.rules ++ [{ rule with workflowId := workflow.id }] }

/-- Points rules and actions back at their parents. -/
def linkChildren (workflow : Workflow) : Workflow :=
  { workflow with
    rules := workflow.rules.map fun rule => { rule.linkActions with workflowId := workflow.id } }

/-- The active rules in execution order; ties stay as they are. -/
def activeRules (workflow : Workflow) : List Rule :=
  (workflow.rules.filter Rule.isActive).mergeSort fun a b =>
    decide (a.executionOrder ≤ b.executionOrder)

/-- Is the workflow active and bound to a record type and a trigger? -/
def appliesTo (workflow : Workflow) (recordType : String) (trigger : TriggerType) : Bool :=
  workflow.isActive && workflow.triggerType == trigger && workflow.recordType == recordType

/-- The workflows among the given ones that apply, in execution order; ties stay as they are. -/
def applicable (workflows : List Workflow) (recordType : String) (trigger : TriggerType) :
    List Workflow :=
  (workflows.filter fun workflow => workflow.appliesTo recordType trigger).mergeSort fun a b =>
    decide (a.executionOrder ≤ b.executionOrder)

def isScheduled (workflow : Workflow) : Bool :=
  workflow.isActive && workflow.triggerType == .scheduled && workflow.schedule.isSome

open Json (required defaulted need decodeText decodeInt32 decodeBool decodeId decodeOption
  decodeList)

def shape : Json.Shape :=
  ⟨"Workflow",
   [defaulted "id" decodeId, required "name" decodeText, required "record_type" decodeText,
    required "trigger_type" TriggerType.ofJson, defaulted "schedule" (decodeOption decodeText),
    defaulted "trigger_fields" (decodeList decodeText), defaulted "is_active" decodeBool,
    defaulted "execution_order" decodeInt32, defaulted "stop_on_match" decodeBool,
    ⟨"rules", [], mintRefusal (decodeMinted Rule.ofJson), true⟩]⟩

def ofJson (json : Json) : Minting Workflow := do
  let fields ← shape.read json
  return {
    id := ← idOrMint fields "id"
    name := ← need fields "name" decodeText
    recordType := ← need fields "record_type" decodeText
    triggerType := ← need fields "trigger_type" TriggerType.ofJson
    schedule := ← Json.orElse fields "schedule" none (decodeOption decodeText)
    triggerFields := ← Json.orElse fields "trigger_fields" [] (decodeList decodeText)
    isActive := ← Json.orElse fields "is_active" true decodeBool
    executionOrder := ← Json.orElse fields "execution_order" 0 decodeInt32
    stopOnMatch := ← Json.orElse fields "stop_on_match" false decodeBool
    rules := ← decodeMinted Rule.ofJson ((Fields.get? "rules" fields).getD (.array [])) }

def toJson (workflow : Workflow) : Json :=
  .object [("execution_order", .int workflow.executionOrder), ("id", workflow.id.toJson),
    ("is_active", .bool workflow.isActive), ("name", .string workflow.name),
    ("record_type", .string workflow.recordType),
    ("rules", Json.ofList Rule.toJson workflow.rules),
    ("schedule", Json.ofText? workflow.schedule), ("stop_on_match", .bool workflow.stopOnMatch),
    ("trigger_fields", Json.ofList .string workflow.triggerFields),
    ("trigger_type", workflow.triggerType.toJson)]

end Workflow

end RecordRules
