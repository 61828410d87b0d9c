import Mathlib.Data.List.Forall2
import Mathlib.Data.List.Induction
import RecordRules.Engine.Execution
import RecordRules.Proofs.DottedPaths
import RecordRules.Proofs.HostEffects
import RecordRules.Proofs.RecordWrites
import RecordRules.Proofs.ResolvedValues

/-!
# Updates of related records

An update of related records overwrites the given fields of the records of a
type whose link field held the identifier before it, and no other field and no
other record.  An action makes one such update: for the identifier of its record,
through the link field that is configured or else registered for the record's
type, with the fields that are configured, their placeholders resolved.
-/

namespace RecordRules

/-! ## Registered links -/

namespace LinkRegistry

def ofRegistrations (registrations : List (String × String)) : LinkRegistry :=
  registrations.foldl (fun registry link => registry.register link.1 link.2)
    empty

/-- The link field of the last registration whose type agrees up to case. -/
def lastFor (recordType : String) (registrations : List (String × String)) :
    Option String :=
  (registrations.reverse.find? fun link =>
    Text.sameName link.1 recordType).map Prod.snd

theorem linkField?_register
    (registry : LinkRegistry) (recordType linkField other : String) :
    (registry.register recordType linkField).linkField? other =
      if Text.sameName recordType other = true then some linkField
      else registry.linkField? other := by
  rw [linkField?, register, List.lookup_cons, beq_eq_decide]
  simp only [Text.asciiLower_eq_iff, Text.sameName_comm other]
  cases Text.sameName recordType other <;> rfl

theorem linkField?_ofRegistrations
    (registrations : List (String × String)) (recordType : String) :
    (ofRegistrations registrations).linkField? recordType =
      lastFor recordType registrations := by
  -- the last registration is the first to be found
  induction registrations using List.reverseRecOn with
  | nil => rfl
  | append_singleton before link ih =>
      rw [ofRegistrations, List.foldl_concat, linkField?_register, lastFor,
        List.reverse_concat, List.find?_cons]
      cases Text.sameName link.1 recordType with
      | true => rfl
      | false => exact ih

end LinkRegistry

/-! ## Overwritten fields -/

namespace Fields

variable {name : String} {value : Json} {given : Fields}

theorem get?_insertAll_of_get?
    (hsorted : given.Sorted) (h : given.get? name = some value)
    (fields : Fields) :
    (fields.insertAll given).get? name = some value := by
  refine get?_insertAll_of_mem ?_ ?_ fields
  · exact mem_names ((get?_eq_some_iff hsorted).mp h)
  · rintro pair hpair rfl
    rw [(get?_eq_some_iff hsorted).mpr hpair] at h
    exact Option.some.inj h

theorem get?_insertAll_of_get?_eq_none
    (h : given.get? name = none) (fields : Fields) :
    (fields.insertAll given).get? name = fields.get? name := by
  refine get?_insertAll_of_notMem (fun hmem => ?_) fields
  rw [← names, ← isSome_get?_iff, h] at hmem
  cases hmem

end Fields

/-- The second record is the first one with every given field overwritten and
every other one kept. -/
structure Record.Overwritten (given : Fields) (before after : Record) : Prop where
  recordType : after.recordType = before.recordType
  id : after.id = before.id
  schema : after.schema = before.schema
  dirty : after.dirty = before.dirty
  overwrites : ∀ name value, given.get? name = some value →
    after.fields.get? name = some value
  keeps : ∀ name, given.get? name = none →
    after.fields.get? name = before.fields.get? name

theorem Record.overwritten_mergeFields
    {given : Fields} (hsorted : given.Sorted) (record : Record) :
    Overwritten given record (record.mergeFields given) where
  recordType := rfl
  id := rfl
  schema := rfl
  dirty := rfl
  overwrites _ _ h := Fields.get?_insertAll_of_get? hsorted h record.fields
  keeps _ h := Fields.get?_insertAll_of_get?_eq_none h record.fields

/-! ## Linked records -/

namespace RecordStore

variable {recordType linkField parentId : String} {given : Fields}

/-- Is the record of the type, and does its link field hold the identifier? -/
def Linked (recordType linkField parentId : String) (record : Record) : Prop :=
  record.recordType = recordType ∧ record.text linkField = some parentId

theorem isLinked_iff {record : Record} :
    isLinked recordType linkField parentId record = true ↔
      Linked recordType linkField parentId record := by
  rw [isLinked, Bool.and_eq_true, beq_iff_eq, beq_iff_eq, Linked]

/-- The second store is the first one with the given fields overwritten in the
records that were linked; the others are as they were, in the same order. -/
structure OverwritesLinked (recordType linkField parentId : String)
    (given : Fields) (before after : RecordStore) : Prop where
  records : List.Forall₂
    (fun record later =>
      (Linked recordType linkField parentId record →
        record.Overwritten given later) ∧
      (¬ Linked recordType linkField parentId record → later = record))
    before.records after.records
  otherTypes : ∀ other, other ≠ recordType →
    after.ofType other = before.ofType other

theorem countRelated_eq (store : RecordStore) :
    store.countRelated recordType linkField parentId =
      ((store.ofType recordType).filter fun record =>
        record.text linkField = some parentId).length := by
  rw [countRelated, List.countP_eq_length_filter, ofType, List.filter_filter]
  congr 2
  funext record
  rw [Bool.eq_iff_iff, isLinked_iff, Linked, Bool.and_eq_true, beq_iff_eq,
    decide_eq_true_eq, and_comm]

theorem ofType_updateRelated (store : RecordStore) (other : String) :
    (store.updateRelated recordType linkField parentId given).ofType other =
      (store.ofType other).map fun record =>
        if isLinked recordType linkField parentId record then
          record.mergeFields given
        else record := by
  rw [updateRelated, ofType, ofType, List.filter_map]
  congr 2
  funext record
  -- a record whose fields are overwritten keeps its type
  simp only [Function.comp_apply]
  split <;> rfl

theorem overwritesLinked_updateRelated
    (hsorted : given.Sorted) (store : RecordStore) :
    OverwritesLinked recordType linkField parentId given store
      (store.updateRelated recordType linkField parentId given) where
  records := by
    rw [updateRelated, List.forall₂_map_right_iff, List.forall₂_same]
    intro record _
    constructor
    · intro hlinked
      rw [if_pos (isLinked_iff.mpr hlinked)]
      exact record.overwritten_mergeFields hsorted
    · intro hunlinked
      rw [if_neg (isLinked_iff.not.mpr hunlinked)]
  otherTypes other hother := by
    rw [ofType_updateRelated]
    refine (List.map_congr_left fun record hmem => ?_).trans (List.map_id' _)
    have htype : record.recordType = other := by
      simpa [ofType] using (List.mem_filter.mp hmem).2
    refine if_neg fun hlinked => hother ?_
    rw [← htype, (isLinked_iff.mp hlinked).1]

end RecordStore

/-! ## The action -/

theorem Host.updateRelated_run
    {host : Host}
    (hnone : host.faults .updateRelated (host.calls .updateRelated) = .none)
    (recordType linkField parentId : String) (given : Fields) :
    (Host.updateRelated recordType linkField parentId given).run host =
      (.value (.ok (host.records.countRelated recordType linkField parentId)),
        { host.counted .updateRelated with
          records := host.records.updateRelated recordType linkField parentId
            given }) := by
  rw [Host.updateRelated, call, callEither_run_apply, hnone]
  rfl

theorem Attempt.bind_pure_run
    {α β : Type} (work : Attempt α) (f : α → β) (host : Host) :
    (work >>= fun a => pure (f a)).run host =
      ((work.run host).1.map (Except.map f), (work.run host).2) := by
  rw [ExceptT.run_bind]
  rcases hwork : work.run host with ⟨(error | a) | _, later⟩
  · rw [Run.bind_of_value hwork]
    rfl
  · rw [Run.bind_of_value hwork]
    rfl
  · rw [Run.bind_of_panic hwork]
    rfl

namespace Execution

variable {action : Action} {config : UpdateRelatedConfig} {record : Record}
  {host : Host}

/-- The result of an action, by how its work ended. -/
def outcome (action : Action) :
    Ending (Except WorkflowError ActionResult) → ActionResult
  | .value (.ok result) => result
  | .value (.error error) => .failure error.message
  | .panic =>
    .failure ("action '" ++ action.name ++ "' panicked during execution")

/-- What is told of an update of related records, by how its call ended. -/
def relatedResult (action : Action) (relatedType : String)
    (ended : Ending (Except WorkflowError Nat)) : ActionResult :=
  outcome action <| ended.map <| Except.map fun updated =>
    .success
      ("Updated " ++ Number.natText updated ++ " " ++ relatedType ++ " records")
      (.object [("updated", Json.ofNat updated)])

def unlinked (relatedType recordType : String) : WorkflowError :=
  .resolution
    ("no link registered from " ++ relatedType ++ " to " ++ recordType)

theorem executeNow_beside
    {work : Attempt ActionResult} {context : ExecutionContext}
    (hdispatch :
      dispatch action.definition record context = beside record work)
    (host : Host) :
    executeNow action record context host =
      (.value (outcome action (work.run host).1, record), (work.run host).2) := by
  have hrun := Attempt.bind_pure_run work (·, record) host
  rw [executeNow, hdispatch, beside]
  cases hended : (work.run host).1 with
  | value ended =>
      rw [hended] at hrun
      rw [Run.bind_of_value (Run.guarded_of_value hrun)]
      cases ended <;> rfl
  | panic =>
      rw [hended] at hrun
      rw [Run.bind_of_value (Run.guarded_of_panic hrun)]
      rfl

theorem linkField?_bind_run
    (recordType : String) (next : Option String → Attempt ActionResult)
    (host : Host) :
    ((Host.linkField? recordType : Attempt (Option String)) >>= next).run host =
      (next (host.links.linkField? recordType)).run host :=
  rfl

theorem executeNow_updateRelated
    {linkField : String}
    (hdefinition : action.definition = .updateRelated config)
    (hlink : config.linkField.or (host.links.linkField? record.recordType) =
      some linkField)
    (context : ExecutionContext) :
    executeNow action record context host =
      let ended := (Host.updateRelated config.relatedType linkField record.id
        (Template.resolveFields record config.fields)).run host
      (.value (relatedResult action config.relatedType ended.1, record),
        ended.2) := by
  rw [executeNow_beside (by rw [hdefinition, dispatch]), updateRelated,
    linkField?_bind_run, hlink]
  simp only [Attempt.bind_pure_run, relatedResult]

theorem executeNow_without_link
    (hdefinition : action.definition = .updateRelated config)
    (hlink : config.linkField.or (host.links.linkField? record.recordType) =
      none)
    (context : ExecutionContext) :
    executeNow action record context host =
      (.value
        (.failure (unlinked config.relatedType record.recordType).message,
          record),
        host) := by
  rw [executeNow_beside (by rw [hdefinition, dispatch]), updateRelated,
    linkField?_bind_run, hlink]
  rfl

/-- An update of related records counts the records of the type that held the
identifier in their link field before it, overwrites the given fields of these,
and changes no other field and no other record; a call for it that is not
disturbed is answered so.  An action calls for it with the identifier of its
record, the link field that is configured or else was last registered for the
record's type, and the fields that are configured, their placeholders resolved;
without a link field it fails and changes nothing. -/
theorem related_updates_touch_linked :
    (∀ (store : RecordStore) (recordType linkField parentId : String)
      (given : Fields), given.Sorted →
      store.countRelated recordType linkField parentId =
          ((store.ofType recordType).filter fun record =>
            record.text linkField = some parentId).length ∧
        RecordStore.OverwritesLinked recordType linkField parentId given store
          (store.updateRelated recordType linkField parentId given)) ∧
    (∀ (host : Host) (recordType linkField parentId : String) (given : Fields),
      host.faults .updateRelated (host.calls .updateRelated) = .none →
      (Host.updateRelated recordType linkField parentId given).run host =
        (.value
            (.ok (host.records.countRelated recordType linkField parentId)),
          { host.counted .updateRelated with
            records := host.records.updateRelated recordType linkField parentId
              given })) ∧
    (∀ (registrations : List (String × String)) (recordType : String),
      (LinkRegistry.ofRegistrations registrations).linkField? recordType =
        LinkRegistry.lastFor recordType registrations) ∧
    ∀ (action : Action) (config : UpdateRelatedConfig) (record : Record)
      (context : ExecutionContext) (host : Host),
      action.definition = .updateRelated config →
      ∃ given : Fields,
        Template.Resolves record (.object config.fields) (.object given) ∧
          given.names = Fields.names config.fields ∧
          executeNow action record context host =
            match config.linkField.or
              (host.links.linkField? record.recordType) with
            | some linkField =>
              let ended := (Host.updateRelated config.relatedType linkField
                record.id given).run host
              (.value (relatedResult action config.relatedType ended.1, record),
                ended.2)
            | none =>
              (.value
                (.failure
                    (unlinked config.relatedType record.recordType).message,
                  record),
                host) := by
  refine ⟨?_, ?_, LinkRegistry.linkField?_ofRegistrations, ?_⟩
  · intro store recordType linkField parentId given hsorted
    exact ⟨store.countRelated_eq, store.overwritesLinked_updateRelated hsorted⟩
  · intro host recordType linkField parentId given hnone
    exact Host.updateRelated_run hnone recordType linkField parentId given
  · intro action config record context host hdefinition
    refine ⟨Template.resolveFields record config.fields,
      Template.resolves_resolveJson record (.object config.fields),
      Template.names_resolveFields record config.fields, ?_⟩
    cases hlink :
        config.linkField.or (host.links.linkField? record.recordType) with
    | some linkField =>
        exact executeNow_updateRelated hdefinition hlink context
    | none => exact executeNow_without_link hdefinition hlink context

/-- A lead whose contacts are handed over to another one. -/
def handedOver : Record :=
  .ofFields "Lead" "L-1" [("Heir", .string "L-2")]

def contactOf (id name lead : String) : Record :=
  .ofFields "Contact" id [("Name", .string name), ("lead_id", .string lead)]

def orderOf (id lead : String) : Record :=
  .ofFields "Order" id [("lead_id", .string lead)]

/-- Two contacts, of which one is linked to the lead, and a linked record of
another type. -/
def contacts : Host :=
  { Host.ofWorkflows [] ⟨0, 0⟩ with
    records :=
      ⟨[contactOf "C-1" "Ann" "L-1", contactOf "C-2" "Bob" "L-2",
        orderOf "O-1" "L-1"]⟩
    links := .ofRegistrations [("LEAD", "lead_id")] }

def handOver : Action :=
  .updateRelated (.numbered 1) "Contact"
    [("lead_id", .string "\x7b\x7bHeir\x7d\x7d")]

def handOverContext : ExecutionContext := ⟨.numbered 2, .numbered 3, none, none⟩

/-- There is one way to resolve a single text. -/
theorem resolves_text_unique
    {name text : String} {given : Fields}
    (hresolves :
      Template.Resolves record (.object [(name, .string text)])
        (.object given))
    (hnames : given.names = [name]) :
    given = [(name, .string (Template.resolve text record))] := by
  obtain ⟨⟨key, value⟩, rfl, rfl⟩ := List.map_eq_singleton_iff.mp hnames
  have hbefore :
      (Json.object [(key, .string text)]).at? [.field key] =
        some (.string text) := by
    simp [Json.at?, Fields.get?]
  have hafter := hresolves.texts _ _ hbefore
  simpa [Json.at?, Fields.get?] using hafter

/-- The first contact is counted, although its link field is overwritten, and
goes to the other lead; the second contact and the order stay. -/
theorem related_updates_touch_linked_contacts :
    Template.Resolves handedOver
        (.object [("lead_id", .string "\x7b\x7bHeir\x7d\x7d")])
        (.object [("lead_id", .string "L-2")]) ∧
      executeNow handOver handedOver handOverContext contacts =
        (.value (relatedResult handOver "Contact" (.value (.ok 1)),
            handedOver),
          { contacts.counted .updateRelated with
            records :=
              ⟨[contactOf "C-1" "Ann" "L-2", contactOf "C-2" "Bob" "L-2",
                orderOf "O-1" "L-1"]⟩ }) ∧
      RecordStore.OverwritesLinked "Contact" "lead_id" "L-1"
        [("lead_id", .string "L-2")] contacts.records
        ⟨[contactOf "C-1" "Ann" "L-2", contactOf "C-2" "Bob" "L-2",
          orderOf "O-1" "L-1"]⟩ := by
  obtain ⟨hstore, hcall, hlinks, haction⟩ := related_updates_touch_linked
  obtain ⟨given, hresolves, hnames, hrun⟩ :=
    haction handOver ⟨"Contact", none, _⟩ handedOver handOverContext contacts rfl
  have hheir :
      Template.resolve "\x7b\x7bHeir\x7d\x7d" handedOver = "L-2" := by
    decide +kernel
  obtain rfl : given = [("lead_id", .string "L-2")] := by
    rw [resolves_text_unique hresolves hnames, hheir]
  obtain ⟨hcount, hlater⟩ :=
    hstore contacts.records "Contact" "lead_id" handedOver.id
      [("lead_id", .string "L-2")] (List.pairwise_singleton _ _)
  have hone :
      ((contacts.records.ofType "Contact").filter fun record =>
        record.text "lead_id" = some handedOver.id).length = 1 := by
    decide +kernel
  have hrecords :
      contacts.records.updateRelated "Contact" "lead_id" handedOver.id
          [("lead_id", .string "L-2")] =
        ⟨[contactOf "C-1" "Ann" "L-2", contactOf "C-2" "Bob" "L-2",
          orderOf "O-1" "L-1"]⟩ := by
    rfl
  have hlink : contacts.links.linkField? handedOver.recordType = some "lead_id" :=
    hlinks [("LEAD", "lead_id")] "Lead"
  have hended :=
    hcall contacts "Contact" "lead_id" handedOver.id
      [("lead_id", .string "L-2")] rfl
  rw [hcount, hone, hrecords] at hended
  rw [hrecords] at hlater
  rw [hlink] at hrun
  refine ⟨hresolves, hrun.trans ?_, hlater⟩
  dsimp only [Option.none_or]
  rw [hended]

end Execution

end RecordRules
