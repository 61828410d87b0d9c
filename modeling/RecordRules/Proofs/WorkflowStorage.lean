import RecordRules.Proofs.StructureDecoding
import RecordRules.Workflow.Basic

/-!
# Workflows survive storage

The JSON form of a workflow is decoded to that workflow.  Conditions are read
leniently and actions through rows with a tag and a configuration of any form;
what reading can make of such a row, writing turns into one that is read the
same way.
-/

namespace RecordRules

open Json

/-! ## Configurations -/

theorem UpdateFieldConfig.ofJson_toJson (config : UpdateFieldConfig) :
    ofJson config.toJson = .ok config := by
  have hread : shape.read config.toJson = .ok _ :=
    Shape.read_object
      (by simp only [Fields.Sorted, Fields.names, List.map]; decide)
      ⟨⟨_, rfl, rfl, rfl⟩, ⟨_, rfl, rfl, rfl⟩⟩
  simp [ofJson, hread, need, Fields.get?, text?]

theorem SendEmailConfig.ofJson_toJson (config : SendEmailConfig) :
    ofJson config.toJson = .ok config := by
  have hread : shape.read config.toJson = .ok _ :=
    Shape.read_object
      (by simp only [Fields.Sorted, Fields.names, List.map]; decide)
      ⟨⟨_, rfl, rfl, rfl⟩, ⟨_, rfl, rfl, rfl⟩, ⟨_, rfl, rfl, rfl⟩,
        ⟨_, rfl, rfl, rfl⟩⟩
  simp [ofJson, hread, need, orElse, Fields.get?]

theorem FollowUpConfig.ofJson_toJson (config : FollowUpConfig) :
    ofJson config.toJson = .ok config := by
  have htext? : ∀ text, refusal decodeText? (ofText? text) = none :=
    fun text => refusal_of_ok (decodeText?_ofText? text)
  have hread : shape.read config.toJson = .ok _ :=
    Shape.read_object
      (by simp only [Fields.Sorted, Fields.names, List.map]; decide)
      ⟨⟨_, rfl, rfl, htext? _⟩, ⟨_, rfl, rfl, htext? _⟩,
        ⟨_, rfl, rfl, htext? _⟩, ⟨_, rfl, rfl, rfl⟩, ⟨_, rfl, rfl, rfl⟩,
        ⟨_, rfl, rfl, htext? _⟩⟩
  simp [ofJson, hread, need, orElse, Fields.get?]

theorem AssignOwnerConfig.ofJson_toJson (config : AssignOwnerConfig) :
    ofJson config.toJson = .ok config := rfl

/-- A payload of null is none. -/
theorem SendWebhookConfig.ofJson_toJson
    {config : SendWebhookConfig} (hpayload : config.payload ≠ some .null) :
    ofJson config.toJson = .ok config := by
  have hdecode := decodeAny?_getD hpayload
  have hread : shape.read config.toJson = .ok _ :=
    Shape.read_object
      (by simp only [Fields.Sorted, Fields.names, List.map]; decide)
      ⟨⟨_, rfl, rfl, refusal_of_ok (decodeTextMap_object _)⟩,
        ⟨_, rfl, rfl, rfl⟩, ⟨_, rfl, rfl, refusal_of_ok hdecode⟩,
        ⟨_, rfl, rfl, rfl⟩⟩
  simp [ofJson, hread, need, orElse, Fields.get?, hdecode]

/-- No decoded payload is null. -/
theorem SendWebhookConfig.payload_ne_null
    {json : Json} {config : SendWebhookConfig}
    (h : ofJson json = .ok config) :
    config.payload ≠ some .null := by
  obtain ⟨fields, -, h⟩ := bind_eq_ok h
  obtain ⟨url, -, h⟩ := bind_eq_ok h
  obtain ⟨method, -, h⟩ := bind_eq_ok h
  obtain ⟨payload, hpayload, h⟩ := bind_eq_ok h
  obtain ⟨headers, -, h⟩ := bind_eq_ok h
  obtain rfl : SendWebhookConfig.mk url method payload headers = config := by
    simpa using h
  rintro rfl
  unfold orElse at hpayload
  split at hpayload
  · exact decodeAny?_ne_null _ hpayload
  · cases hpayload

theorem CreateRecordConfig.ofJson_toJson (config : CreateRecordConfig) :
    ofJson config.toJson = .ok config := by
  have hread : shape.read config.toJson = .ok _ :=
    Shape.read_object
      (by simp only [Fields.Sorted, Fields.names, List.map]; decide)
      ⟨⟨_, rfl, rfl, rfl⟩, ⟨_, rfl, rfl, rfl⟩⟩
  simp [ofJson, hread, need, orElse, Fields.get?]

theorem UpdateRelatedConfig.ofJson_toJson (config : UpdateRelatedConfig) :
    ofJson config.toJson = .ok config := by
  have hread : shape.read config.toJson = .ok _ :=
    Shape.read_object
      (by simp only [Fields.Sorted, Fields.names, List.map]; decide)
      ⟨⟨_, rfl, rfl, rfl⟩,
        ⟨_, rfl, rfl, refusal_of_ok (decodeText?_ofText? _)⟩,
        ⟨_, rfl, rfl, rfl⟩⟩
  simp [ofJson, hread, need, orElse, Fields.get?]

theorem NotificationConfig.ofJson_toJson (config : NotificationConfig) :
    ofJson config.toJson = .ok config := by
  have htext? : ∀ text, refusal decodeText? (ofText? text) = none :=
    fun text => refusal_of_ok (decodeText?_ofText? text)
  have hread : shape.read config.toJson = .ok _ :=
    Shape.read_object
      (by simp only [Fields.Sorted, Fields.names, List.map]; decide)
      ⟨⟨_, rfl, rfl, htext? _⟩, ⟨_, rfl, rfl, rfl⟩, ⟨_, rfl, rfl, htext? _⟩,
        ⟨_, rfl, rfl, htext? _⟩⟩
  simp [ofJson, hread, need, orElse, Fields.get?]

/-! ## Definitions -/

theorem ActionKind.ofTag?_name (kind : ActionKind) :
    ofTag? kind.name = some kind := by
  cases kind <;> rfl

namespace ActionDefinition

/-- Can the action not run? -/
def IsInvalid : ActionDefinition → Prop
  | .invalid _ _ _ _ => True
  | _ => False

/-- The definition can have come from storage: it was read from a configuration
and can run, or it keeps a row of a kind that is not known. -/
inductive Storable : ActionDefinition → Prop
  | parsed {kind : ActionKind} {config : Json} :
      ¬ (parse kind config).IsInvalid → Storable (parse kind config)
  | unknown {tag : String} (raw : Json) :
      ActionKind.ofTag? tag = none →
        Storable (.invalid none tag (.unknownKind tag) raw)

/-- What was decoded by way of a configuration is decoded again from what it is
written as, which is an object of its kind. -/
theorem decode_again
    {Config : Type} {decodeConfig : Json → Except DecodeError Config}
    {construct : Config → ActionDefinition} {kind : ActionKind}
    {definition : ActionDefinition} {json : Json}
    (hagain : ∀ config, decodeConfig json = .ok config →
      decodeConfig (construct config).toConfig = .ok config)
    (hform : ∀ config, (construct config).tag = kind.name ∧
      ∃ fields, (construct config).toConfig = .object fields)
    (h : (decodeConfig json).map construct = .ok definition) :
    (decodeConfig definition.toConfig).map construct = .ok definition ∧
      definition.tag = kind.name ∧
      ∃ fields, definition.toConfig = .object fields := by
  cases hconfig : decodeConfig json with
  | error error => simp [hconfig, Except.map] at h
  | ok config =>
      obtain rfl : construct config = definition := by
        simpa [hconfig, Except.map] using h
      rw [hagain config hconfig]
      exact ⟨rfl, hform config⟩

theorem decode_toConfig
    {kind : ActionKind} {json : Json} {definition : ActionDefinition}
    (h : decode kind json = .ok definition) :
    decode kind definition.toConfig = .ok definition ∧
      definition.tag = kind.name ∧
      ∃ fields, definition.toConfig = .object fields := by
  cases kind with
  | updateField =>
      exact decode_again (fun config _ => config.ofJson_toJson)
        (fun _ => ⟨rfl, _, rfl⟩) h
  | sendEmail =>
      exact decode_again (fun config _ => config.ofJson_toJson)
        (fun _ => ⟨rfl, _, rfl⟩) h
  | createTask =>
      exact decode_again (fun config _ => config.ofJson_toJson)
        (fun _ => ⟨rfl, _, rfl⟩) h
  | createActivity =>
      exact decode_again (fun config _ => config.ofJson_toJson)
        (fun _ => ⟨rfl, _, rfl⟩) h
  | assignOwner =>
      exact decode_again (fun config _ => config.ofJson_toJson)
        (fun _ => ⟨rfl, _, rfl⟩) h
  | sendWebhook =>
      exact decode_again
        (fun _ hconfig => SendWebhookConfig.ofJson_toJson
          (SendWebhookConfig.payload_ne_null hconfig))
        (fun _ => ⟨rfl, _, rfl⟩) h
  | createRecord =>
      exact decode_again (fun config _ => config.ofJson_toJson)
        (fun _ => ⟨rfl, _, rfl⟩) h
  | updateRelated =>
      exact decode_again (fun config _ => config.ofJson_toJson)
        (fun _ => ⟨rfl, _, rfl⟩) h
  | sendNotification =>
      exact decode_again (fun config _ => config.ofJson_toJson)
        (fun _ => ⟨rfl, _, rfl⟩) h
  | sendSms =>
      exact decode_again (fun config _ => config.ofJson_toJson)
        (fun _ => ⟨rfl, _, rfl⟩) h

/-- A definition that can run was decoded, and lacks nothing. -/
theorem parse_cases (kind : ActionKind) (config : Json) :
    (parse kind config).IsInvalid ∨
      ∃ json, decode kind json = .ok (parse kind config) ∧
        (parse kind config).emptySetting = none := by
  have hvalue : ∀ json,
      (parseValue kind json).IsInvalid ∨
        decode kind json = .ok (parseValue kind json) ∧
          (parseValue kind json).emptySetting = none := by
    intro json
    unfold parseValue
    cases hdecode : decode kind json with
    | error error => exact .inl trivial
    | ok definition =>
        dsimp only
        cases hempty : definition.emptySetting with
        | some setting => exact .inl trivial
        | none => exact .inr ⟨rfl, hempty⟩
  have hparse :
      (parse kind config).IsInvalid ∨
        ∃ json, parse kind config = parseValue kind json := by
    unfold parse
    split
    · split
      · exact .inr ⟨_, rfl⟩
      · exact .inl trivial
    · exact .inr ⟨_, rfl⟩
    · exact .inr ⟨_, rfl⟩
  rcases hparse with hinvalid | ⟨json, hjson⟩
  · exact .inl hinvalid
  · rw [hjson]
    exact (hvalue json).imp_right fun h => ⟨json, h⟩

/-- The row of a definition that can have come from storage is read as that
definition. -/
theorem Storable.read_again
    {definition : ActionDefinition} (h : definition.Storable)
    (row : StoredAction) (htag : row.kind = definition.tag)
    (hconfig : row.config = definition.toConfig) :
    Action.definitionOf row = definition := by
  unfold Action.definitionOf
  cases h with
  | @parsed kind config hvalid =>
      obtain ⟨json, hdecode, hempty⟩ :=
        (parse_cases kind config).resolve_left hvalid
      generalize parse kind config = definition at *
      obtain ⟨hagain, hkind, fields, hfields⟩ := decode_toConfig hdecode
      rw [htag, hkind, ActionKind.ofTag?_name, hconfig]
      -- an object is not taken for a text that holds JSON
      rw [hfields] at hagain ⊢
      change parseValue kind (.object fields) = definition
      rw [parseValue, hagain]
      dsimp only
      rw [hempty]
  | @unknown tag raw hunknown =>
      have hkind : row.kind = tag := htag
      rw [hkind, hunknown, hconfig]
      rfl

end ActionDefinition

/-! ## Actions -/

theorem StoredAction.ofJson_toJson
    {row : StoredAction} (horder : Number.isInt32 row.executionOrder = true)
    (hdelay : Number.isInt32 row.delayMinutes = true) :
    ofJson row.toJson = pure row := by
  have hid := decodeId_toJson row.id
  have hruleId := decodeId_toJson row.ruleId
  have hread : shape.read row.toJson = .ok _ :=
    Shape.read_object
      (by simp only [Fields.Sorted, Fields.names, List.map]; decide)
      ⟨⟨_, rfl, rfl, rfl⟩,
        ⟨_, rfl, rfl, refusal_of_ok (decodeInt32_int hdelay)⟩,
        ⟨_, rfl, rfl, refusal_of_ok (decodeInt32_int horder)⟩,
        ⟨_, rfl, rfl, refusal_of_ok hid⟩, ⟨_, rfl, rfl, rfl⟩,
        ⟨_, rfl, rfl, rfl⟩, ⟨_, rfl, rfl, rfl⟩,
        ⟨_, rfl, rfl, refusal_of_ok hruleId⟩⟩
  rw [Uuid.toJson] at hid hruleId
  simp [ofJson, hread, need, orElse, idOrMint, Fields.get?, hid, hruleId,
    decodeInt32_int hdelay, decodeInt32_int horder]

/-- The action can be stored: its numbers fit, and its definition can have come
from storage. -/
structure Action.Storable (action : Action) : Prop where
  order : Number.isInt32 action.executionOrder = true
  delay : Number.isInt32 action.delayMinutes = true
  definition : action.definition.Storable

theorem Action.ofJson_toJson {action : Action} (h : action.Storable) :
    ofJson action.toJson = pure action := by
  have hrow :
      StoredAction.ofJson action.toStored.toJson = pure action.toStored :=
    StoredAction.ofJson_toJson h.order h.delay
  have haction : ofStored action.toStored = action := by
    have hdefinition : definitionOf action.toStored = action.definition :=
      h.definition.read_again _ rfl rfl
    rw [ofStored, hdefinition]
    rfl
  rw [ofJson, toJson, hrow, pure_bind, haction]

/-! ## Conditions -/

theorem Operator.ofText_name (operator : Operator) :
    ofText operator.name = operator := by
  cases operator <;> rfl

theorem Condition.ofJson_toJson (condition : Condition) :
    ofJson condition.toJson = .ok condition := by
  have hoperator :
      Operator.ofJson (.string condition.operator.name) =
        .ok condition.operator :=
    congrArg Except.ok condition.operator.ofText_name
  have hliteral : literal (ofText? condition.value) = condition.value := by
    cases condition.value <;> rfl
  have hread : shape.read condition.toJson = .ok _ :=
    Shape.read_object
      (by simp only [Fields.Sorted, Fields.names, List.map]; decide)
      ⟨⟨_, rfl, rfl, rfl⟩, ⟨_, rfl, rfl, refusal_of_ok hoperator⟩,
        ⟨_, rfl, rfl, rfl⟩⟩
  simp [ofJson, hread, need, orElse, Fields.get?, hoperator, hliteral]

/-- A written list of conditions is not taken for one that cannot be read. -/
theorem Condition.listOfStored_ofList (conditions : List Condition) :
    listOfStored (Json.ofList toJson conditions) = conditions := by
  have hdecode :
      decodeList ofJson (Json.ofList toJson conditions) = .ok conditions :=
    decodeList_ofList ofJson_toJson conditions
  change listOfValue (Json.ofList toJson conditions) = conditions
  rw [listOfValue, hdecode]

/-! ## Rules -/

theorem LogicMode.ofJson_toJson (mode : LogicMode) :
    ofJson mode.toJson = .ok mode := by
  cases mode <;> rfl

structure Rule.Storable (rule : Rule) : Prop where
  order : Number.isInt32 rule.executionOrder = true
  actions : ∀ action ∈ rule.actions, action.Storable

theorem Rule.ofJson_toJson {rule : Rule} (h : rule.Storable) :
    ofJson rule.toJson = pure rule := by
  have hactions :
      decodeMinted Action.ofJson (Json.ofList Action.toJson rule.actions) =
        pure rule.actions :=
    decodeMinted_ofList fun action hmem =>
      Action.ofJson_toJson (h.actions action hmem)
  have hread : shape.read rule.toJson = .ok _ :=
    Shape.read_object
      (by simp only [Fields.Sorted, Fields.names, List.map]; decide)
      ⟨⟨_, rfl, rfl, mintRefusal_of_pure hactions⟩, ⟨_, rfl, rfl, rfl⟩,
        ⟨_, rfl, rfl, refusal_of_ok (decodeInt32_int h.order)⟩,
        ⟨_, rfl, rfl, refusal_of_ok (decodeId_toJson _)⟩, ⟨_, rfl, rfl, rfl⟩,
        ⟨_, rfl, rfl, refusal_of_ok rule.logic.ofJson_toJson⟩,
        ⟨_, rfl, rfl, rfl⟩,
        ⟨_, rfl, rfl, refusal_of_ok (decodeId_toJson _)⟩⟩
  simp [ofJson, hread, need, orElse, idOrMint, Fields.get?, hactions,
    decodeInt32_int h.order, LogicMode.ofJson_toJson,
    Condition.listOfStored_ofList]

/-! ## Workflows -/

theorem TriggerType.ofJson_toJson (trigger : TriggerType) :
    ofJson trigger.toJson = .ok trigger := by
  cases trigger <;> rfl

namespace Workflow

structure Storable (workflow : Workflow) : Prop where
  order : Number.isInt32 workflow.executionOrder = true
  rules : ∀ rule ∈ workflow.rules, rule.Storable

theorem ofJson_toJson {workflow : Workflow} (h : workflow.Storable) :
    ofJson workflow.toJson = pure workflow := by
  have hrules :
      decodeMinted Rule.ofJson (Json.ofList Rule.toJson workflow.rules) =
        pure workflow.rules :=
    decodeMinted_ofList fun rule hmem =>
      Rule.ofJson_toJson (h.rules rule hmem)
  have hfields :
      decodeList decodeText (Json.ofList .string workflow.triggerFields) =
        .ok workflow.triggerFields :=
    decodeList_ofList decodeText_string workflow.triggerFields
  have hschedule :
      decodeOption decodeText (ofText? workflow.schedule) =
        .ok workflow.schedule :=
    decodeText?_ofText? workflow.schedule
  have hread : shape.read workflow.toJson = .ok _ :=
    Shape.read_object
      (by simp only [Fields.Sorted, Fields.names, List.map]; decide)
      ⟨⟨_, rfl, rfl, refusal_of_ok (decodeInt32_int h.order)⟩,
        ⟨_, rfl, rfl, refusal_of_ok (decodeId_toJson _)⟩, ⟨_, rfl, rfl, rfl⟩,
        ⟨_, rfl, rfl, rfl⟩, ⟨_, rfl, rfl, rfl⟩,
        ⟨_, rfl, rfl, mintRefusal_of_pure hrules⟩,
        ⟨_, rfl, rfl, refusal_of_ok hschedule⟩, ⟨_, rfl, rfl, rfl⟩,
        ⟨_, rfl, rfl, refusal_of_ok hfields⟩,
        ⟨_, rfl, rfl, refusal_of_ok workflow.triggerType.ofJson_toJson⟩⟩
  simp [ofJson, hread, need, orElse, idOrMint, Fields.get?, hrules, hfields,
    hschedule, decodeInt32_int h.order, TriggerType.ofJson_toJson]

/-- A workflow whose definitions can have come from storage, and whose numbers
fit, is decoded from its JSON form as it was, and no identifier is drawn. -/
theorem survives_storage
    (workflow : Workflow) (supply : IdSupply) (h : workflow.Storable) :
    (ofJson workflow.toJson).run supply = .ok (workflow, supply) := by
  rw [ofJson_toJson h]
  rfl

/-- Calls a hook with a payload, creates a task half an hour later, and pages a
team, for which there is no kind of action. -/
def intakeActions : List Action :=
  [.ofConfig (.numbered 3) "Call the hook" .sendWebhook
      (.object
        [("headers", .object [("X-Team", .string "sales")]),
          ("payload", .object [("priority", .int 1)]),
          ("url", .string "hooks/intake")]),
    { Action.ofConfig (.numbered 4) "Call back" .createTask
        (.object [("subject", .string "Call back"),
          ("task_type", .string "call")]) with
      executionOrder := -1
      delayMinutes := 30 },
    .ofDefinition (.numbered 5) "Page the team"
      (.invalid none "PageTeam" (.unknownKind "PageTeam")
        (.object [("team", .string "sales")]))]

/-- A workflow with an operator that is not known, a condition without a
literal, and actions of several kinds. -/
def intake : Workflow :=
  { Workflow.ofName (.numbered 1) "Intake" "Lead" .onUpdate with
    triggerFields := ["Stage"]
    stopOnMatch := true
    rules :=
      [{ Rule.ofName (.numbered 2) "Large leads" with
          conditions :=
            [.between "Amount" "1000" "5000", ⟨"Region", .unknown, some "EU"⟩,
              .changed "Stage"]
          logic := .any
          actions := intakeActions }] }

theorem survives_storage_intake :
    intake.Storable ∧
      (ofJson intake.toJson).run ⟨7⟩ = .ok (intake, ⟨7⟩) := by
  have hactions : ∀ action ∈ intakeActions, action.Storable := by
    simp only [intakeActions, List.forall_mem_cons, List.not_mem_nil,
      false_imp_iff, implies_true, and_true]
    have hcall :
        (ActionDefinition.parse .sendWebhook
          (.object
            [("headers", .object [("X-Team", .string "sales")]),
              ("payload", .object [("priority", .int 1)]),
              ("url", .string "hooks/intake")])).Storable :=
      .parsed fun hinvalid => hinvalid
    have hcreate :
        (ActionDefinition.parse .createTask
          (.object [("subject", .string "Call back"),
            ("task_type", .string "call")])).Storable :=
      .parsed fun hinvalid => hinvalid
    exact ⟨⟨rfl, rfl, hcall⟩, ⟨rfl, rfl, hcreate⟩, ⟨rfl, rfl, .unknown _ rfl⟩⟩
  have hstorable : intake.Storable := by
    refine ⟨rfl, fun rule hmem => ?_⟩
    obtain rfl := List.mem_singleton.mp hmem
    exact ⟨rfl, hactions⟩
  exact ⟨hstorable, survives_storage intake ⟨7⟩ hstorable⟩

end Workflow

end RecordRules
