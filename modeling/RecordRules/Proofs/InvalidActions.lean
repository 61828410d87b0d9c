import Mathlib.Dynamics.FixedPoints.Basic
import RecordRules.Proofs.QuotedTexts
import RecordRules.Proofs.WorkflowStorage

/-!
# Actions that cannot run, stored and loaded again

An action that cannot run keeps the configuration that could not be read.  When
it is stored and loaded again, that configuration is taken for a stored one:
null stands for an empty object, and a text for the JSON in it.  So the action
stays as it is exactly when its kind is unknown or its configuration stands for
itself; else every round takes a layer off, until what is left stays.
-/

namespace RecordRules

/-- A configuration that is read as it stands: it is not null, and no text that
holds JSON. -/
def Json.StandsForItself (config : Json) : Prop :=
  config ≠ .null ∧
    ∀ text inner, config = .string text → Json.parse text ≠ .ok inner

/-- How much can be taken off a configuration by reading what it stands for. -/
def Json.weight : Json → Nat
  | .string text => text.toList.length + 2
  | .null => 1
  | _ => 0

namespace ActionDefinition

variable {kind : ActionKind} {kind? : Option ActionKind} {tag : String}
  {fault : ActionFault} {config raw : Json}

theorem invalid_or_not (definition : ActionDefinition) :
    ¬ definition.IsInvalid ∨
      ∃ kind? tag fault raw, definition = .invalid kind? tag fault raw := by
  cases definition with
  | invalid kind? tag fault raw => exact .inr ⟨kind?, tag, fault, raw, rfl⟩
  | _ => exact .inl fun hinvalid => hinvalid

/-! ## How configurations are read -/

/-- What a stored configuration is read as. -/
inductive Reads : Json → Json → Prop
  /-- A text stands for the JSON in it. -/
  | text {text : String} {inner : Json} :
      Json.parse text = .ok inner → Reads (.string text) inner
  /-- Null stands for an empty object. -/
  | null : Reads .null (.object [])
  /-- Any other value stands for itself. -/
  | other {config : Json} :
      config ≠ .null → config.isString = false → Reads config config

theorem parse_of_reads (h : Reads config raw) :
    parse kind config = parseValue kind raw := by
  cases h with
  | text hparse => simp only [parse, hparse]
  | null => rfl
  | other hnull hstring =>
      cases config <;> first | rfl | simp_all [Json.isString]

theorem parse_of_notJson
    {text : String} {error : Json.ReadError} (h : Json.parse text = .error error) :
    parse kind (.string text) =
      .invalid (some kind) kind.name (.notJson error) (.string text) := by
  simp only [parse, h]

theorem reads_or_notJson (config : Json) :
    (∃ raw, Reads config raw) ∨
      ∃ text error, config = .string text ∧ Json.parse text = .error error := by
  cases config with
  | null => exact .inl ⟨_, .null⟩
  | string text =>
      cases hparse : Json.parse text with
      | ok inner => exact .inl ⟨inner, .text hparse⟩
      | error error => exact .inr ⟨text, error, rfl, hparse⟩
  | _ => exact .inl ⟨_, .other (by simp) rfl⟩

theorem not_isInvalid_of_decode
    {definition : ActionDefinition} (h : decode kind config = .ok definition) :
    ¬ definition.IsInvalid := by
  have hconstructed {Config : Type} {decoded : Except Json.DecodeError Config}
      {construct : Config → ActionDefinition}
      (hmap : decoded.map construct = .ok definition)
      (hvalid : ∀ settings, ¬ (construct settings).IsInvalid) :
      ¬ definition.IsInvalid := by
    cases decoded with
    | error error => cases hmap
    | ok settings =>
        cases hmap
        exact hvalid settings
  cases kind <;> exact hconstructed h fun _ hinvalid => hinvalid

/-- A definition that a value gives and that cannot run keeps kind and
value. -/
theorem parseValue_eq_invalid
    (h : parseValue kind config = .invalid kind? tag fault raw) :
    kind? = some kind ∧ tag = kind.name ∧ raw = config := by
  unfold parseValue at h
  split at h
  · cases h
    exact ⟨rfl, rfl, rfl⟩
  · rename_i definition hdecode
    split at h
    · cases h
      exact ⟨rfl, rfl, rfl⟩
    · exact absurd (h ▸ trivial) (not_isInvalid_of_decode hdecode)

/-- A definition that cannot run keeps what the configuration stands for, or
the configuration itself when that is no JSON. -/
theorem parse_eq_invalid
    (h : parse kind config = .invalid kind? tag fault raw) :
    kind? = some kind ∧ tag = kind.name ∧
      (Reads config raw ∨
        ∃ text error, config = .string text ∧ raw = config ∧
          Json.parse text = .error error) := by
  rcases reads_or_notJson config with ⟨inner, hreads⟩ | ⟨text, error, rfl, hparse⟩
  · rw [parse_of_reads hreads] at h
    obtain ⟨hkind, htag, rfl⟩ := parseValue_eq_invalid h
    exact ⟨hkind, htag, .inl hreads⟩
  · rw [parse_of_notJson hparse] at h
    cases h
    exact ⟨rfl, rfl, .inr ⟨text, error, rfl, rfl, hparse⟩⟩

theorem parseValue_empty (kind : ActionKind) :
    ∃ fault, parseValue kind (.object []) =
      .invalid (some kind) kind.name fault (.object []) := by
  cases kind <;> exact ⟨_, rfl⟩

/-! ## Reading a kept configuration -/

/-- What is kept is the configuration itself or weighs less. -/
theorem weight_kept
    (h : parse kind config = .invalid kind? tag fault raw) :
    raw = config ∨ raw.weight < config.weight := by
  obtain ⟨-, -, hreads | ⟨text, error, -, hraw, -⟩⟩ := parse_eq_invalid h
  · cases hreads with
    | other => exact .inl rfl
    | null => exact .inr (by decide)
    | text hparse =>
        refine .inr ?_
        cases raw with
        | string inner =>
            have hlength := Json.length_lt_of_parse hparse
            simp only [Json.weight]
            omega
        | _ =>
            simp only [Json.weight]
            omega
  · exact .inl hraw

theorem parse_kept_of_standsForItself
    (h : parse kind config = .invalid kind? tag fault raw)
    (hstands : raw.StandsForItself) :
    ∃ again, parse kind raw = .invalid kind? tag again raw := by
  obtain ⟨hkind, htag, hraw⟩ := parse_eq_invalid h
  rcases reads_or_notJson raw with ⟨inner, hinner⟩ | ⟨text, error, rfl, hparse⟩
  · cases hinner with
    | text hparse => exact absurd hparse (hstands.2 _ _ rfl)
    | null => exact absurd rfl hstands.1
    | other hnull hstring =>
        rw [parse_of_reads (.other hnull hstring)]
        rcases hraw with hreads | ⟨text, error, rfl, rfl, -⟩
        · rw [parse_of_reads hreads] at h
          exact ⟨fault, h⟩
        · cases hstring
  · rw [parse_of_notJson hparse, hkind, htag]
    exact ⟨_, rfl⟩

theorem standsForItself_of_parse_kept
    (h : parse kind raw = .invalid kind? tag fault raw) :
    raw.StandsForItself := by
  obtain ⟨-, -, hreads | ⟨text, error, rfl, -, hparse⟩⟩ := parse_eq_invalid h
  · refine ⟨?_, ?_⟩
    · rintro rfl
      cases hreads with
      | other hnull => exact hnull rfl
    · rintro text inner rfl hparse
      -- a text is longer than one that it holds
      cases hreads with
      | text hself => exact absurd (Json.length_lt_of_parse hself) (lt_irrefl _)
      | other _ hstring => cases hstring
  · refine ⟨by simp, fun other inner heq hok => ?_⟩
    obtain rfl := Json.string.inj heq
    rw [hparse] at hok
    cases hok

/-- Only a text that holds JSON is ever read as a definition that can run,
after it was kept. -/
theorem parse_kept_invalid
    (h : parse kind config = .invalid kind? tag fault raw)
    (hplain : ∀ text inner, raw = .string text → Json.parse text ≠ .ok inner) :
    ∃ again kept, parse kind raw = .invalid kind? tag again kept := by
  by_cases hnull : raw = .null
  · obtain ⟨rfl, rfl, -⟩ := parse_eq_invalid h
    obtain ⟨again, hagain⟩ := parseValue_empty kind
    rw [hnull, parse_of_reads .null]
    exact ⟨again, _, hagain⟩
  · obtain ⟨again, hagain⟩ :=
      parse_kept_of_standsForItself h ⟨hnull, hplain⟩
    exact ⟨again, raw, hagain⟩

end ActionDefinition

/-! ## Rounds through storage -/

namespace Action

/-- The action after it was stored and loaded again. -/
def reloaded (action : Action) : Action := ofStored action.toStored

variable {row : StoredAction} {kind? : Option ActionKind} {tag : String}
  {fault : ActionFault} {raw : Json}

theorem definition_ofStored (row : StoredAction) :
    (ofStored row).definition = definitionOf row := by
  rw [ofStored]

theorem reloaded_eq_self
    {action : Action} (h : definitionOf action.toStored = action.definition) :
    action.reloaded = action := by
  rw [reloaded, ofStored, h]
  rfl

theorem reloaded_of_storable {action : Action}
    (h : action.definition.Storable) : action.reloaded = action :=
  reloaded_eq_self (h.read_again action.toStored rfl rfl)

theorem definitionOf_of_known
    {kind : ActionKind} (h : ActionKind.ofTag? row.kind = some kind) :
    definitionOf row = ActionDefinition.parse kind row.config := by
  unfold definitionOf
  rw [h]

theorem definitionOf_of_unknown (h : ActionKind.ofTag? row.kind = none) :
    definitionOf row =
      .invalid none row.kind (.unknownKind row.kind) row.config := by
  unfold definitionOf
  rw [h]

/-- An action that cannot run is of an unknown kind, or its configuration could
not be read. -/
theorem definition_eq_invalid
    (h : (ofStored row).definition = .invalid kind? tag fault raw) :
    (kind? = none ∧ ActionKind.ofTag? tag = none ∧
        fault = .unknownKind tag) ∨
      ∃ kind, kind? = some kind ∧ tag = kind.name ∧
        ActionDefinition.parse kind row.config =
          .invalid kind? tag fault raw := by
  rw [definition_ofStored] at h
  cases hkind : ActionKind.ofTag? row.kind with
  | some kind =>
      rw [definitionOf_of_known hkind] at h
      obtain ⟨hsome, htag, -⟩ := ActionDefinition.parse_eq_invalid h
      exact .inr ⟨kind, hsome, htag, h⟩
  | none =>
      rw [definitionOf_of_unknown hkind, ActionDefinition.invalid.injEq] at h
      obtain ⟨rfl, rfl, rfl, rfl⟩ := h
      exact .inl ⟨rfl, hkind, rfl⟩

theorem reloaded_of_unknown
    (h : (ofStored row).definition = .invalid none tag fault raw) :
    (ofStored row).reloaded = ofStored row := by
  rcases definition_eq_invalid h with ⟨-, hunknown, hfault⟩ | ⟨_, hnone, _⟩
  · refine reloaded_eq_self ?_
    have htag : (ofStored row).toStored.kind = tag := by
      rw [toStored, h, ActionDefinition.tag]
    have hconfig : (ofStored row).toStored.config = raw := by
      rw [toStored, h, ActionDefinition.toConfig]
    rw [definitionOf_of_unknown (htag ▸ hunknown), htag, hconfig, h, hfault]
  · cases hnone

theorem reloaded_definition
    {kind : ActionKind}
    (h : (ofStored row).definition = .invalid (some kind) tag fault raw) :
    (ofStored row).reloaded.definition = ActionDefinition.parse kind raw := by
  rcases definition_eq_invalid h with ⟨hnone, -⟩ | ⟨other, hsome, htag, -⟩
  · cases hnone
  · obtain rfl := Option.some.inj hsome
    have hkind : ActionKind.ofTag? (ofStored row).toStored.kind = some kind := by
      rw [toStored, h, ActionDefinition.tag, htag, ActionKind.ofTag?_name]
    have hconfig : (ofStored row).toStored.config = raw := by
      rw [toStored, h, ActionDefinition.toConfig]
    rw [reloaded, definition_ofStored, definitionOf_of_known hkind, hconfig]

theorem toStored_config
    (h : (ofStored row).definition = .invalid kind? tag fault raw) :
    (ofStored row).toStored.config = raw := by
  rw [toStored, h, ActionDefinition.toConfig]

theorem reloaded_kept
    (h : (ofStored row).definition = .invalid kind? tag fault raw)
    (hkept : kind? = none ∨ raw.StandsForItself) :
    ∃ again, (ofStored row).reloaded.definition =
      .invalid kind? tag again raw := by
  cases kind? with
  | none =>
      rw [reloaded_of_unknown h]
      exact ⟨fault, h⟩
  | some kind =>
      rcases definition_eq_invalid h with ⟨hnone, -⟩ | ⟨other, hsome, -, hparse⟩
      · cases hnone
      · obtain rfl := Option.some.inj hsome
        rw [reloaded_definition h]
        exact ActionDefinition.parse_kept_of_standsForItself hparse
          (hkept.resolve_left (Option.some_ne_none kind))

theorem rounds_kept
    (h : (ofStored row).definition = .invalid kind? tag fault raw)
    (hkept : kind? = none ∨ raw.StandsForItself) (rounds : Nat) :
    ∃ again, (reloaded^[rounds] (ofStored row)).definition =
      .invalid kind? tag again raw := by
  induction rounds generalizing row fault with
  | zero => exact ⟨fault, h⟩
  | succ rounds ih =>
      obtain ⟨again, hagain⟩ := reloaded_kept h hkept
      rw [Function.iterate_succ_apply]
      exact ih hagain

theorem reloaded_of_not_isInvalid
    (h : ¬ (ofStored row).definition.IsInvalid) :
    (ofStored row).reloaded = ofStored row := by
  refine reloaded_of_storable ?_
  rw [definition_ofStored] at h ⊢
  cases hkind : ActionKind.ofTag? row.kind with
  | none =>
      rw [definitionOf_of_unknown hkind] at h
      exact absurd trivial h
  | some kind =>
      rw [definitionOf_of_known hkind] at h ⊢
      exact .parsed h

/-- Every action comes to a form that storing and loading leaves as it is. -/
theorem exists_settled (row : StoredAction) :
    ∃ rounds, Function.IsFixedPt reloaded (reloaded^[rounds] (ofStored row)) := by
  -- while rounds change it, its configuration loses weight
  induction hweight : row.config.weight using Nat.strong_induction_on
    generalizing row with
  | _ weight ih =>
      subst hweight
      rcases (ofStored row).definition.invalid_or_not with
        hvalid | ⟨kind?, tag, fault, raw, hdefinition⟩
      · exact ⟨0, reloaded_of_not_isInvalid hvalid⟩
      rcases definition_eq_invalid hdefinition with
        ⟨rfl, -⟩ | ⟨kind, rfl, -, hparse⟩
      · exact ⟨0, reloaded_of_unknown hdefinition⟩
      rcases ActionDefinition.weight_kept hparse with rfl | hless
      · have hsame :
            (ofStored row).reloaded.definition =
              (ofStored row).definition := by
          rw [reloaded_definition hdefinition, hparse, hdefinition]
        rw [reloaded, definition_ofStored] at hsame
        exact ⟨0, reloaded_eq_self hsame⟩
      · rw [← toStored_config hdefinition] at hless
        obtain ⟨rounds, hrounds⟩ := ih _ hless _ rfl
        exact ⟨rounds + 1, hrounds⟩

/-- What cannot run still cannot after a round, unless it kept a text that
holds JSON. -/
theorem reloaded_invalid
    (h : (ofStored row).definition = .invalid kind? tag fault raw)
    (hplain : ∀ text inner, raw = .string text → Json.parse text ≠ .ok inner) :
    ∃ again kept, (ofStored row).reloaded.definition =
      .invalid kind? tag again kept := by
  rcases definition_eq_invalid h with ⟨rfl, -⟩ | ⟨kind, rfl, -, hparse⟩
  · rw [reloaded_of_unknown h]
    exact ⟨fault, raw, h⟩
  · rw [reloaded_definition h]
    exact ActionDefinition.parse_kept_invalid hparse hplain

/-- An action that cannot run keeps failing with its kind, tag and
configuration, however often it is stored and loaded, exactly when its kind is
unknown or its configuration stands for itself.  Else what is kept of a known
kind is read as a stored configuration; it cannot run unless it is a text that
holds JSON.  After some rounds nothing changes any more. -/
theorem invalid_kept_iff
    (h : (ofStored row).definition = .invalid kind? tag fault raw) :
    ((∀ rounds, ∃ again, (reloaded^[rounds] (ofStored row)).definition =
        .invalid kind? tag again raw) ↔
      kind? = none ∨ raw.StandsForItself) ∧
    (∀ kind, kind? = some kind →
      (ofStored row).reloaded.definition = ActionDefinition.parse kind raw) ∧
    ((∃ again kept, (ofStored row).reloaded.definition =
        .invalid kind? tag again kept) ∨
      ∃ text inner, raw = .string text ∧ Json.parse text = .ok inner) ∧
    ∃ rounds, Function.IsFixedPt reloaded (reloaded^[rounds] (ofStored row)) := by
  refine ⟨⟨fun hrounds => ?_, rounds_kept h⟩, ?_, ?_, exists_settled row⟩
  · obtain ⟨again, hagain⟩ := hrounds 1
    rcases definition_eq_invalid h with ⟨hnone, -⟩ | ⟨kind, rfl, -, -⟩
    · exact .inl hnone
    · rw [Function.iterate_one, reloaded_definition h] at hagain
      exact .inr (ActionDefinition.standsForItself_of_parse_kept hagain)
  · rintro kind rfl
    exact reloaded_definition h
  · by_cases htext : ∃ text inner,
        raw = .string text ∧ Json.parse text = .ok inner
    · exact .inr htext
    · exact .inl <| reloaded_invalid h fun text inner hraw hok =>
        htext ⟨text, inner, hraw, hok⟩

/-- A row for a mail that says nothing of its recipient. -/
def unaddressed : StoredAction :=
  ⟨.numbered 1, .numbered 2, "Remind", "SendEmail", 1,
    .object [("unexpected", .bool true)], 0, true⟩

theorem invalid_kept_iff_unaddressed :
    (ofStored unaddressed).definition =
        .invalid (some .sendEmail) "SendEmail"
          (.malformed (.missingField "to")) unaddressed.config ∧
      ∀ rounds, ∃ again,
        (reloaded^[rounds] (ofStored unaddressed)).definition =
          .invalid (some .sendEmail) "SendEmail" again unaddressed.config := by
  have hkind : ActionKind.ofTag? unaddressed.kind = some .sendEmail :=
    ActionKind.ofTag?_name .sendEmail
  have hinvalid :
      (ofStored unaddressed).definition =
        .invalid (some .sendEmail) "SendEmail"
          (.malformed (.missingField "to")) unaddressed.config := by
    rw [definition_ofStored, definitionOf_of_known hkind]
    rfl
  have hstands : unaddressed.config.StandsForItself :=
    ⟨fun heq => Json.noConfusion heq, fun _ _ heq => Json.noConfusion heq⟩
  exact ⟨hinvalid, (invalid_kept_iff hinvalid).1.mpr (.inr hstands)⟩

/-- What sets a status to open. -/
def openStatus : Json :=
  .object [("field", .string "Status"), ("value", .string "Open")]

/-- A row whose configuration was written as JSON twice. -/
def twiceWritten : StoredAction :=
  ⟨.numbered 1, .numbered 2, "Open", "UpdateField", 1,
    .string (Json.quote openStatus.print), 0, true⟩

/-- It cannot run when it is loaded, but can after one more round. -/
theorem twiceWritten_runs :
    (ofStored twiceWritten).definition =
        .invalid (some .updateField) "UpdateField"
          (.malformed
            (.wrongType (.string openStatus.print) "struct UpdateFieldConfig"))
          (.string openStatus.print) ∧
      (ofStored twiceWritten).reloaded.definition =
        .updateField ⟨"Status", "Open"⟩ := by
  have hkind : ActionKind.ofTag? twiceWritten.kind = some .updateField :=
    ActionKind.ofTag?_name .updateField
  have hquoted :
      Json.parse (Json.quote openStatus.print) =
        .ok (.string openStatus.print) := by
    with_unfolding_all rfl
  have hprinted : Json.parse openStatus.print = .ok openStatus := by
    with_unfolding_all rfl
  have hinvalid :
      (ofStored twiceWritten).definition =
        .invalid (some .updateField) "UpdateField"
          (.malformed
            (.wrongType (.string openStatus.print) "struct UpdateFieldConfig"))
          (.string openStatus.print) := by
    rw [definition_ofStored, definitionOf_of_known hkind, twiceWritten,
      ActionDefinition.parse_of_reads (.text hquoted)]
    rfl
  refine ⟨hinvalid, ?_⟩
  rw [reloaded_definition hinvalid,
    ActionDefinition.parse_of_reads (.text hprinted)]
  rfl

end Action

end RecordRules
