import Mathlib.Data.List.Nodup
import RecordRules.Proofs.IdentifierTexts
import RecordRules.Proofs.Run
import RecordRules.Sql.Workflows

/-!
# Workflows joined from rows

Rows are put together by gathering the items that name a parent and taking them
out again, parent by parent.  When parents have distinct identifiers this is the
join of the tables: each parent gets the items that name it, in the order of
their rows, and no item with a parent is lost, doubled or put elsewhere.
-/

namespace RecordRules.Sql

namespace Families

variable {α β ρ : Type} {families : Families α}

def itemsOf (parent : Uuid) (families : Families α) : List α :=
  (families.take parent).1

@[simp] theorem itemsOf_nil (parent : Uuid) :
    itemsOf parent ([] : Families α) = [] := rfl

theorem itemsOf_cons
    (parent other : Uuid) (items : List α) (rest : Families α) :
    itemsOf parent ((other, items) :: rest) =
      if other = parent then items else itemsOf parent rest := by
  unfold itemsOf
  rw [take]
  split <;> rfl

theorem itemsOf_add
    (parent named : Uuid) (item : α) (families : Families α) :
    itemsOf parent (families.add named item) =
      itemsOf parent families ++ if named = parent then [item] else [] := by
  induction families with
  | nil => simp [add, itemsOf_cons]
  | cons family rest ih =>
      obtain ⟨other, items⟩ := family
      by_cases hnamed : other = named
      · subst other
        by_cases hparent : named = parent
        · simp [add, itemsOf_cons, hparent]
        · simp [add, itemsOf_cons, hparent]
      · by_cases hparent : other = parent
        · subst other
          simp [add, itemsOf_cons, hnamed, Ne.symm hnamed]
        · simp [add, itemsOf_cons, hnamed, hparent, ih]

theorem itemsOf_foldl_add
    (key : α → Uuid) (items : List α) (parent : Uuid) (families : Families α) :
    itemsOf parent
        (items.foldl (fun families item => families.add (key item) item)
          families) =
      itemsOf parent families ++
        items.filter fun item => key item = parent := by
  induction items generalizing families with
  | nil => simp
  | cons item rest ih =>
      rw [List.foldl_cons, ih, itemsOf_add]
      by_cases hnamed : key item = parent
      · simp [hnamed]
      · simp [hnamed]

/-- What is gathered for a parent are the items that name it, in their order. -/
theorem itemsOf_gather (key : α → Uuid) (items : List α) (parent : Uuid) :
    itemsOf parent (gather key items) =
      items.filter fun item => key item = parent := by
  rw [gather, itemsOf_foldl_add, itemsOf_nil, List.nil_append]

/-- Taking out the items of one parent leaves those of the others. -/
theorem itemsOf_take_of_ne
    {parent other : Uuid} (h : other ≠ parent) (families : Families α) :
    itemsOf other (families.take parent).2 = itemsOf other families := by
  induction families with
  | nil => rfl
  | cons family rest ih =>
      obtain ⟨named, items⟩ := family
      by_cases hnamed : named = parent
      · subst named
        simp [take, itemsOf_cons, Ne.symm h]
      · simp only [take, if_neg hnamed, itemsOf_cons, ih]

/-- Rows with distinct identifiers each get all that was gathered for them. -/
theorem attach_eq_map
    {id : ρ → Uuid} {withItems : ρ → List α → β} {rows : List ρ}
    (hid : (rows.map id).Nodup) (families : Families α) :
    families.attach id withItems rows =
      rows.map fun row => withItems row (families.itemsOf (id row)) := by
  induction rows generalizing families with
  | nil => rfl
  | cons row rest ih =>
      rw [List.map_cons, List.nodup_cons] at hid
      -- The rows behind name other parents, so nothing of theirs is taken.
      have hrest :
          (rest.map fun other =>
            withItems other ((families.take (id row)).2.itemsOf (id other))) =
            rest.map fun other =>
              withItems other (families.itemsOf (id other)) := by
        apply List.map_congr_left
        intro other hmem
        have hne : id other ≠ id row := fun heq =>
          hid.1 (heq ▸ List.mem_map_of_mem hmem)
        rw [itemsOf_take_of_ne hne]
      calc
        families.attach id withItems (row :: rest) =
            withItems row (families.itemsOf (id row)) ::
              (families.take (id row)).2.attach id withItems rest := rfl
        _ = _ := by rw [ih hid.2, hrest, List.map_cons]

end Families

/-! ## The join -/

/-- The items of a column that holds a list, or a text with the JSON of one. -/
def listed? : Json → Option (List Json)
  | .array items => some items
  | .string text =>
    match Json.parse text with
    | .ok (.array items) => some items
    | _ => none
  | _ => none

/-- The conditions of a column: one for each of its items, or none at all when
an item is no condition. -/
def conditionsOf (raw : Json) : List Condition :=
  ((listed? raw).bind fun items =>
    items.mapM fun item => (Condition.ofJson item).toOption).getD []

/-- The action of a row: its columns, with what its kind and configuration
mean. -/
def actionOf (row : StoredAction) : Action where
  id := row.id
  ruleId := row.ruleId
  name := row.name
  executionOrder := row.executionOrder
  definition :=
    match ActionKind.ofTag? row.kind with
    | some kind => .parse kind row.config
    | none => .invalid none row.kind (.unknownKind row.kind) row.config
  delayMinutes := row.delayMinutes
  isActive := row.isActive

/-- The rule of a row: its columns, with its conditions read, and the actions of
the rows that name it. -/
def ruleOf (actions : List StoredAction) (row : RuleRow) : Rule where
  id := row.id
  workflowId := row.workflowId
  name := row.name
  executionOrder := row.executionOrder
  conditions := conditionsOf row.conditions
  logic := row.logic
  isActive := row.isActive
  actions :=
    (actions.filter fun action => action.ruleId = row.id).map actionOf

/-- The workflow of a row: its columns, and the rules of the rows that name
it. -/
def workflowOf (rules : List RuleRow) (actions : List StoredAction)
    (row : WorkflowRow) : Workflow where
  id := row.id
  name := row.name
  recordType := row.recordType
  triggerType := row.triggerType
  schedule := row.schedule
  triggerFields := row.triggerFields
  isActive := row.isActive
  executionOrder := row.executionOrder
  stopOnMatch := row.stopOnMatch
  rules :=
    (rules.filter fun rule => rule.workflowId = row.id).map (ruleOf actions)

theorem ofStored_eq_actionOf : Action.ofStored = actionOf := by
  funext row
  unfold Action.ofStored actionOf Action.definitionOf
  cases ActionKind.ofTag? row.kind <;> rfl

theorem toOption_mapM
    {ε α β : Type} (read : α → Except ε β) (items : List α) :
    (items.mapM read).toOption =
      items.mapM fun item => (read item).toOption := by
  induction items with
  | nil => rfl
  | cons item rest ih =>
      rw [List.mapM_cons, List.mapM_cons, ← ih]
      cases read item with
      | error fault => rfl
      | ok value => cases rest.mapM read <;> rfl

theorem listOfValue_array (items : List Json) :
    Condition.listOfValue (.array items) = conditionsOf (.array items) := by
  rw [conditionsOf, listed?, Option.bind_some, ← toOption_mapM,
    Condition.listOfValue, Json.decodeList]
  cases items.mapM Condition.ofJson <;> rfl

theorem listOfStored_eq_conditionsOf (raw : Json) :
    Condition.listOfStored raw = conditionsOf raw := by
  cases raw with
  | array items => exact listOfValue_array items
  | string text =>
      unfold Condition.listOfStored conditionsOf
      cases hparse : Json.parse text with
      | error fault =>
          simp only [listed?, hparse]
          rfl
      | ok inner =>
          simp only [listed?, hparse]
          cases inner with
          | array items => exact listOfValue_array items
          | _ => rfl
  | _ => rfl

theorem withActions_eq_ruleOf (actions : List StoredAction) (row : RuleRow) :
    row.withActions
        ((actions.filter fun action => action.ruleId = row.id).map actionOf) =
      ruleOf actions row := by
  rw [ruleOf, ← listOfStored_eq_conditionsOf]
  rfl

theorem withRules_eq_workflowOf
    (rules : List RuleRow) (actions : List StoredAction) (row : WorkflowRow) :
    row.withRules
        ((rules.filter fun rule => rule.workflowId = row.id).map
          (ruleOf actions)) =
      workflowOf rules actions row := rfl

theorem assemble_eq_map
    {workflows : List WorkflowRow} {rules : List RuleRow}
    (hworkflows : (workflows.map WorkflowRow.id).Nodup)
    (hrules : (rules.map RuleRow.id).Nodup) (actions : List StoredAction) :
    assemble workflows rules actions =
      workflows.map (workflowOf rules actions) := by
  have hactions (row : RuleRow) :
      (Families.gather Action.ruleId (actions.map actionOf)).itemsOf row.id =
        (actions.filter fun action => action.ruleId = row.id).map
          actionOf := by
    rw [Families.itemsOf_gather, List.filter_map]
    rfl
  have hattached :
      (Families.gather Action.ruleId (actions.map actionOf)).attach RuleRow.id
          RuleRow.withActions rules =
        rules.map (ruleOf actions) := by
    rw [Families.attach_eq_map hrules]
    apply List.map_congr_left
    intro row _
    rw [hactions, withActions_eq_ruleOf]
  rw [assemble, ofStored_eq_actionOf, hattached,
    Families.attach_eq_map hworkflows]
  apply List.map_congr_left
  intro row _
  rw [Families.itemsOf_gather, List.filter_map]
  exact withRules_eq_workflowOf rules actions row

/-! ## No row is lost or doubled -/

/-- Items picked key by key are those with one of the keys. -/
theorem flatMap_filter_perm
    {α : Type} {keys : List Uuid} (hkeys : keys.Nodup) (key : α → Uuid)
    (items : List α) :
    (keys.flatMap fun k => items.filter fun item => key item = k).Perm
      (items.filter fun item => key item ∈ keys) := by
  induction keys with
  | nil => simp
  | cons k rest ih =>
      rw [List.nodup_cons] at hkeys
      -- The picked items fall apart into those of the first key and the others.
      have hfirst :
          (items.filter fun item => key item ∈ k :: rest).filter
              (fun item => key item = k) =
            items.filter fun item => key item = k := by
        rw [List.filter_filter]
        apply List.filter_congr
        intro item _
        by_cases hk : key item = k <;> simp [hk]
      have hothers :
          (items.filter fun item => key item ∈ k :: rest).filter
              (fun item => !decide (key item = k)) =
            items.filter fun item => key item ∈ rest := by
        rw [List.filter_filter]
        apply List.filter_congr
        intro item _
        by_cases hk : key item = k
        · simp [hk, hkeys.1]
        · simp [hk]
      rw [List.flatMap_cons]
      refine ((ih hkeys.2).append_left _).trans ?_
      rw [← hfirst, ← hothers]
      exact List.filter_append_perm _ _

/-- The items that name rows with distinct identifiers, row by row. -/
theorem flatMap_children_perm
    {α β ρ : Type} {rows : List ρ} {id : ρ → Uuid}
    (hid : (rows.map id).Nodup) (key : α → Uuid) (make : α → β)
    (items : List α) :
    (rows.flatMap fun row =>
      (items.filter fun item => key item = id row).map make).Perm
      ((items.filter fun item => key item ∈ rows.map id).map make) := by
  have hpicked := (flatMap_filter_perm hid key items).map make
  rwa [List.map_flatMap, List.flatMap_map] at hpicked

def rulesWithin (workflows : List WorkflowRow) (rules : List RuleRow) :
    List RuleRow :=
  rules.filter fun rule => rule.workflowId ∈ workflows.map WorkflowRow.id

/-- The rows of actions that name a rule which names one of the workflows. -/
def actionsWithin (workflows : List WorkflowRow) (rules : List RuleRow)
    (actions : List StoredAction) : List StoredAction :=
  actions.filter fun action =>
    action.ruleId ∈ (rulesWithin workflows rules).map RuleRow.id

theorem rules_perm
    {workflows : List WorkflowRow}
    (hworkflows : (workflows.map WorkflowRow.id).Nodup)
    (rules : List RuleRow) (actions : List StoredAction) :
    ((workflows.map (workflowOf rules actions)).flatMap Workflow.rules).Perm
      ((rulesWithin workflows rules).map (ruleOf actions)) := by
  rw [List.flatMap_map]
  exact flatMap_children_perm hworkflows RuleRow.workflowId (ruleOf actions)
    rules

theorem actions_perm
    {workflows : List WorkflowRow} {rules : List RuleRow}
    (hworkflows : (workflows.map WorkflowRow.id).Nodup)
    (hrules : (rules.map RuleRow.id).Nodup) (actions : List StoredAction) :
    (((workflows.map (workflowOf rules actions)).flatMap
      Workflow.rules).flatMap Rule.actions).Perm
      ((actionsWithin workflows rules actions).map actionOf) := by
  have hwithin : ((rulesWithin workflows rules).map RuleRow.id).Nodup :=
    hrules.sublist (List.filter_sublist.map _)
  refine ((rules_perm hworkflows rules actions).flatMap_right _).trans ?_
  rw [List.flatMap_map]
  exact flatMap_children_perm hwithin StoredAction.ruleId actionOf
    actions

/-! ## Fetching the rows -/

theorem fetchAll_bind
    {α β : Type} {read : RowReader α} {sql : String} {params : List Param}
    {rows : List Fields} {affected : Nat} {replies : List Reply}
    {connection : Connection} {items : List α}
    (hopen : connection.isOpen = true)
    (hreplies : connection.replies = .rows rows affected :: replies)
    (hread : rows.mapM read = .ok items) (next : List α → Query β) :
    (fetchAll read sql params >>= next).run connection =
      (next items).run
        { connection with
          replies
          executed := connection.executed ++ [⟨sql, params⟩] } := by
  have hsend :
      (send sql params).run connection =
        (.value (.ok (rows, affected)),
          { connection with
            replies
            executed := connection.executed ++ [⟨sql, params⟩] }) := by
    simp [send, Run.update_apply, hopen, hreplies]
  rw [fetchAll, bind_assoc, ExceptT.run_bind, Run.bind_of_value hsend]
  simp only [hread]
  rfl

/-- The database answers the two statements that complete workflows with these
rows. -/
structure Answers (connection : Connection) (rules : List RuleRow)
    (actions : List StoredAction) : Prop where
  isOpen : connection.isOpen = true
  replies : ∃ ruleRows ruleCount actionRows actionCount rest,
    connection.replies =
        .rows ruleRows ruleCount :: .rows actionRows actionCount :: rest ∧
      ruleRows.mapM readRule = .ok rules ∧
      actionRows.mapM readAction = .ok actions

theorem complete_of_answers
    {rules : List RuleRow} {actions : List StoredAction}
    {connection : Connection} (h : Answers connection rules actions)
    (workflows : List WorkflowRow) :
    ∃ after, (complete workflows).run connection =
      (.value (.ok (assemble workflows rules actions)), after) := by
  obtain ⟨ruleRows, ruleCount, actionRows, actionCount, rest, hreplies,
    hruleRows, hactionRows⟩ := h.replies
  by_cases hempty : workflows.isEmpty = true
  · rw [List.isEmpty_iff.mp hempty]
    exact ⟨connection, rfl⟩
  · rw [complete, if_neg hempty]
    exact ⟨_, (fetchAll_bind h.isOpen hreplies hruleRows _).trans
      (fetchAll_bind (by exact h.isOpen) rfl hactionRows _)⟩

/-- From rows with distinct identifiers come the workflows of their rows in
order, each with all its columns and with the rules of the rows that name it.
These have their columns, the conditions of their lists and the actions of the
rows that name them, all in the order of the rows.  Rules and actions that name
a parent are all there, and each once. -/
theorem complete_joins
    {workflows : List WorkflowRow} {rules : List RuleRow}
    (hworkflows : (workflows.map WorkflowRow.id).Nodup)
    (hrules : (rules.map RuleRow.id).Nodup) (actions : List StoredAction) :
    assemble workflows rules actions =
        workflows.map (workflowOf rules actions) ∧
      (∀ connection, Answers connection rules actions →
        ∃ after, (complete workflows).run connection =
          (.value (.ok (workflows.map (workflowOf rules actions))), after)) ∧
      ((assemble workflows rules actions).flatMap Workflow.rules).Perm
        ((rulesWithin workflows rules).map (ruleOf actions)) ∧
      (((assemble workflows rules actions).flatMap
        Workflow.rules).flatMap Rule.actions).Perm
        ((actionsWithin workflows rules actions).map actionOf) := by
  have hjoined := assemble_eq_map hworkflows hrules actions
  refine ⟨hjoined, fun connection hanswers => ?_, ?_, ?_⟩
  · rw [← hjoined]
    exact complete_of_answers hanswers workflows
  · rw [hjoined]
    exact rules_perm hworkflows rules actions
  · rw [hjoined]
    exact actions_perm hworkflows hrules actions

/-! ## Rows of invoices -/

def columnsOfRule (row : RuleRow) : Fields :=
  [("id", .string row.id.text), ("workflow_id", .string row.workflowId.text),
    ("name", .string row.name), ("execution_order", .int row.executionOrder),
    ("conditions", row.conditions),
    ("logic", .string (match row.logic with | .all => "all" | .any => "any")),
    ("is_active", .bool row.isActive)]

def columnsOfAction (row : StoredAction) : Fields :=
  [("id", .string row.id.text), ("rule_id", .string row.ruleId.text),
    ("name", .string row.name), ("kind", .string row.kind),
    ("execution_order", .int row.executionOrder), ("config", row.config),
    ("delay_minutes", .int row.delayMinutes),
    ("is_active", .bool row.isActive)]

theorem asId_text (id : Uuid) : asId (.string id.text) = some id :=
  Uuid.read?_text id

theorem readRule_columns
    {row : RuleRow} (hconditions : reread row.conditions = row.conditions) :
    readRule (columnsOfRule row) = .ok row := by
  have hid : column asId "id" (columnsOfRule row) = .ok row.id := by
    simp [column, columnsOfRule, Fields.get?, asId_text]
  have hparent :
      column asId "workflow_id" (columnsOfRule row) = .ok row.workflowId := by
    simp [column, columnsOfRule, Fields.get?, asId_text]
  have hread :
      column asJson "conditions" (columnsOfRule row) = .ok row.conditions := by
    simp [column, columnsOfRule, Fields.get?, asJson, hconditions]
  simp only [readRule, hid, hparent, hread]
  obtain ⟨_, _, _, _, _, _ | _, _⟩ := row <;> rfl

theorem readAction_columns
    {row : StoredAction} (hconfig : reread row.config = row.config) :
    readAction (columnsOfAction row) = .ok row := by
  have hid : column asId "id" (columnsOfAction row) = .ok row.id := by
    simp [column, columnsOfAction, Fields.get?, asId_text]
  have hparent :
      column asId "rule_id" (columnsOfAction row) = .ok row.ruleId := by
    simp [column, columnsOfAction, Fields.get?, asId_text]
  have hread :
      column asJson "config" (columnsOfAction row) = .ok row.config := by
    simp [column, columnsOfAction, Fields.get?, asJson, hconfig]
  simp only [readAction, hid, hparent, hread]
  rfl

theorem mapM_columns
    {α : Type} {read : RowReader α} {columns : α → Fields} {items : List α}
    (h : ∀ item ∈ items, read (columns item) = .ok item) :
    (items.map columns).mapM read = .ok items := by
  induction items with
  | nil => rfl
  | cons item rest ih =>
      have hrest := ih fun other hmem => h other (List.mem_cons_of_mem _ hmem)
      rw [List.map_cons, List.mapM_cons, h item List.mem_cons_self, hrest]
      rfl

/-- A connection to a database with these rules and actions. -/
def stock (rules : List RuleRow) (actions : List StoredAction) : Connection :=
  ⟨true, [.rows (rules.map columnsOfRule) 0,
    .rows (actions.map columnsOfAction) 0], []⟩

theorem answers_stock
    {rules : List RuleRow} {actions : List StoredAction}
    (hrules : ∀ row ∈ rules, reread row.conditions = row.conditions)
    (hactions : ∀ row ∈ actions, reread row.config = row.config) :
    Answers (stock rules actions) rules actions where
  isOpen := rfl
  replies :=
    ⟨_, _, _, _, _, rfl,
      mapM_columns fun row hmem => readRule_columns (hrules row hmem),
      mapM_columns fun row hmem => readAction_columns (hactions row hmem)⟩

def billing : WorkflowRow :=
  ⟨.numbered 1, "Billing", "Invoice", .onUpdate, none, ["Total"], true, 0,
    false⟩

def dunning : WorkflowRow :=
  ⟨.numbered 2, "Dunning", "Invoice", .scheduled, some "0 6 * * *", [], false,
    1, true⟩

def overdue : Json :=
  .array [.object [("field", .string "Total"), ("operator", .string "gt"),
    ("value", .string "100")]]

def remind : RuleRow :=
  ⟨.numbered 3, .numbered 2, "Remind", 0, overdue, .any, true⟩

def book : RuleRow :=
  ⟨.numbered 4, .numbered 1, "Book", 2, .array [], .all, true⟩

/-- Names a workflow that is not there. -/
def stray : RuleRow :=
  ⟨.numbered 5, .numbered 9, "Stray", 0, .array [], .all, true⟩

/-- Has a list with an item that is no condition. -/
def check : RuleRow :=
  ⟨.numbered 6, .numbered 1, "Check", 1, .array [.null], .all, false⟩

def booked : Json :=
  .object [("field", .string "Status"), ("value", .string "Booked")]

def mark : StoredAction :=
  ⟨.numbered 11, .numbered 4, "Mark", "UpdateField", 1, booked, 0, true⟩

def fax : StoredAction :=
  ⟨.numbered 12, .numbered 3, "Fax", "Fax", 0, .null, 30, true⟩

/-- Names a rule that is not there. -/
def lost : StoredAction :=
  ⟨.numbered 13, .numbered 8, "Lost", "Fax", 0, .null, 0, true⟩

def page : StoredAction :=
  ⟨.numbered 14, .numbered 4, "Page", "Fax", 0, .null, 0, false⟩

def storedRules : List RuleRow := [remind, book, stray, check]

def storedActions : List StoredAction := [mark, fax, lost, page]

theorem answers_invoices :
    Answers (stock storedRules storedActions) storedRules storedActions := by
  have hnone : reread (.array []) = .array [] := by
    with_unfolding_all rfl
  have hnull : reread .null = .null := by
    with_unfolding_all rfl
  have hnulls : reread (.array [.null]) = .array [.null] := by
    with_unfolding_all rfl
  have hoverdue : reread overdue = overdue := by
    with_unfolding_all rfl
  have hbooked : reread booked = booked := by
    with_unfolding_all rfl
  refine answers_stock ?_ ?_
  · simp [storedRules, remind, book, stray, check, hnone, hnulls, hoverdue]
  · simp [storedActions, mark, fax, lost, page, hnull, hbooked]

/-- The rule of `book`: its actions stand as their rows do, not in the order in
which they run. -/
def booking : Rule where
  id := .numbered 4
  workflowId := .numbered 1
  name := "Book"
  executionOrder := 2
  conditions := []
  logic := .all
  isActive := true
  actions :=
    [⟨.numbered 11, .numbered 4, "Mark", 1, .updateField ⟨"Status", "Booked"⟩,
        0, true⟩,
      ⟨.numbered 14, .numbered 4, "Page", 0,
        .invalid none "Fax" (.unknownKind "Fax") .null, 0, false⟩]

def checking : Rule where
  id := .numbered 6
  workflowId := .numbered 1
  name := "Check"
  executionOrder := 1
  conditions := []
  logic := .all
  isActive := false
  actions := []

def reminding : Rule where
  id := .numbered 3
  workflowId := .numbered 2
  name := "Remind"
  executionOrder := 0
  conditions := [⟨"Total", .greaterThan, some "100"⟩]
  logic := .any
  isActive := true
  actions :=
    [⟨.numbered 12, .numbered 3, "Fax", 0,
      .invalid none "Fax" (.unknownKind "Fax") .null, 30, true⟩]

theorem actionOf_mark :
    actionOf mark =
      ⟨.numbered 11, .numbered 4, "Mark", 1,
        .updateField ⟨"Status", "Booked"⟩, 0, true⟩ := by
  have hkind : ActionKind.ofTag? "UpdateField" = some .updateField := by
    decide +kernel
  have hconfig :
      UpdateFieldConfig.ofJson booked = .ok ⟨"Status", "Booked"⟩ := by
    decide +kernel
  have hset : Text.isAllBlank "Status" = false := by
    decide +kernel
  have hparse :
      ActionDefinition.parse .updateField booked =
        .updateField ⟨"Status", "Booked"⟩ := by
    change ActionDefinition.parseValue .updateField booked = _
    simp [ActionDefinition.parseValue, ActionDefinition.decode, hconfig,
      Except.map, ActionDefinition.emptySetting, ActionDefinition.blankSetting,
      hset]
  simp only [actionOf, mark, hkind, hparse]

/-- There is no kind of action that sends a fax. -/
theorem actionOf_fax {row : StoredAction} (h : row.kind = "Fax") :
    actionOf row =
      ⟨row.id, row.ruleId, row.name, row.executionOrder,
        .invalid none "Fax" (.unknownKind "Fax") row.config, row.delayMinutes,
        row.isActive⟩ := by
  have hkind : ActionKind.ofTag? "Fax" = none := by
    decide +kernel
  simp only [actionOf, h, hkind]

theorem ruleOf_book :
    ruleOf storedActions book = booking := by
  have hactions :
      (storedActions.filter fun action => action.ruleId = book.id) =
        [mark, page] := rfl
  have hconditions : conditionsOf book.conditions = [] := by
    decide +kernel
  simp only [ruleOf, hactions, hconditions, List.map, actionOf_mark,
    actionOf_fax (show page.kind = "Fax" from rfl)]
  rfl

theorem ruleOf_check :
    ruleOf storedActions check = checking := by
  have hactions :
      (storedActions.filter fun action => action.ruleId = check.id) =
        [] := rfl
  have hconditions : conditionsOf check.conditions = [] := by
    decide +kernel
  simp only [ruleOf, hactions, hconditions, List.map]
  rfl

theorem ruleOf_remind :
    ruleOf storedActions remind = reminding := by
  have hactions :
      (storedActions.filter fun action => action.ruleId = remind.id) =
        [fax] := rfl
  have hconditions :
      conditionsOf remind.conditions =
        [⟨"Total", .greaterThan, some "100"⟩] := by
    decide +kernel
  simp only [ruleOf, hactions, hconditions, List.map,
    actionOf_fax (show fax.kind = "Fax" from rfl)]
  rfl

/-- Rules and actions stand in the order of their rows, whatever their own order
and whether or not they are active, and what names an absent parent is not
there. -/
theorem complete_joins_interleaved :
    ([billing, dunning].map WorkflowRow.id).Nodup ∧
      (storedRules.map RuleRow.id).Nodup ∧
      Answers (stock storedRules storedActions) storedRules storedActions ∧
      ∃ after, (complete [billing, dunning]).run
          (stock storedRules storedActions) =
        (.value (.ok
          [⟨.numbered 1, "Billing", "Invoice", .onUpdate, none, ["Total"], true,
              0, false, [booking, checking]⟩,
            ⟨.numbered 2, "Dunning", "Invoice", .scheduled, some "0 6 * * *",
              [], false, 1, true, [reminding]⟩]), after) := by
  have hworkflows : ([billing, dunning].map WorkflowRow.id).Nodup := by decide
  have hrules : (storedRules.map RuleRow.id).Nodup := by decide
  have hbilling :
      (storedRules.filter fun rule => rule.workflowId = billing.id) =
        [book, check] := rfl
  have hdunning :
      (storedRules.filter fun rule => rule.workflowId = dunning.id) =
        [remind] := rfl
  obtain ⟨-, hcomplete, -⟩ := complete_joins hworkflows hrules storedActions
  obtain ⟨after, hrun⟩ := hcomplete _ answers_invoices
  refine ⟨hworkflows, hrules, answers_invoices, after, hrun.trans ?_⟩
  simp only [List.map, workflowOf, hbilling, hdunning, ruleOf_book,
    ruleOf_check, ruleOf_remind]
  rfl

end RecordRules.Sql
