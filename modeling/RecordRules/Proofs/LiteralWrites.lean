import RecordRules.Proofs.ListLiterals
import RecordRules.Proofs.ReadOnlyFields
import RecordRules.Proofs.RecordWrites

/-!
# Literals that are written are read back

A name means the same field before and after a literal is written to it, and
the value that is stored suggests the kind that it was converted to.  So a
write is read back under the name that it was given, touches one field, and
changes nothing when it is made again.
-/

namespace RecordRules

/-! ## Storing a pair once more -/

namespace Fields

variable {name key : String} {value : Json} {fields : Fields}

/-- Where a key passes a test and no other name passes it first, the key is
the first to pass it once it is stored. -/
theorem find?_names_insert
    (test : String → Bool) (hkey : test key = true)
    (hfirst : ∀ other, (names fields).find? test = some other → other = key)
    (value : Json) :
    (names (insert key value fields)).find? test = some key := by
  induction fields with
  | nil => simp [insert, names, hkey]
  | cons pair rest ih =>
      obtain ⟨head, old⟩ := pair
      by_cases hhead : key = head
      · simp [insert, names, hhead, hhead ▸ hkey]
      by_cases hless : key < head
      · simp [insert, names, hhead, hless, hkey]
      have hfails : test head = false := by
        rw [← Bool.not_eq_true]
        intro hpasses
        exact hhead (hfirst head (by simp [names, hpasses])).symm
      have hrest := ih fun other hother =>
        hfirst other (by simpa [names, hfails] using hother)
      simpa [insert, names, hhead, hless, hfails] using hrest

/-- A name means the key that is stored, when the key agrees with it up to case
and the name meant no other. -/
theorem resolve?_insert
    (hsame : Text.sameName key name = true)
    (hmeant : ∀ other, resolve? name fields = some other → other = key)
    (value : Json) :
    resolve? name (insert key value fields) = some key := by
  by_cases hname : name = key
  · simp [resolve?, hname]
  · have habsent : (get? name fields).isSome = false := by
      rw [← Bool.not_eq_true]
      intro hstored
      exact hname (hmeant name (by rw [resolve?, if_pos hstored]))
    have hfirst :
        ∀ other, (names fields).find? (Text.sameName · name) = some other →
          other = key := by
      intro other hother
      exact hmeant other (by simpa [resolve?, habsent] using hother)
    unfold resolve?
    rw [get?_insert_of_ne hname, habsent]
    exact find?_names_insert (Text.sameName · name) hsame hfirst value

end Fields

@[simp] theorem insertName_insertName (name : String) (names : List String) :
    insertName name (insertName name names) = insertName name names := by
  induction names with
  | nil => simp [insertName]
  | cons head rest ih =>
      by_cases hname : name = head
      · simp [insertName, hname]
      · by_cases hless : name < head
        · simp [insertName, hname, hless]
        · simp only [insertName, if_neg hname, if_neg hless, ih]

/-! ## Values of literals -/

namespace Literal

variable {kind : FieldKind} {literal : String} {value : Json}

theorem orFail_map_eq_ok
    {α : Type} {error : LiteralError} {read : Option α} {encode : α → Json}
    (h : orFail error (read.map encode) = .ok value) :
    ∃ a, read = some a ∧ value = encode a := by
  cases read with
  | none => cases h
  | some a => exact ⟨a, rfl, (Except.ok.inj h).symm⟩

theorem convert_ne_null (h : convert kind literal = .ok value) :
    value ≠ .null := by
  unfold convert at h
  cases kind with
  | string =>
      obtain rfl := Except.ok.inj h
      exact Json.noConfusion
  | _ =>
      obtain ⟨_, -, rfl⟩ := orFail_map_eq_ok h
      exact Json.noConfusion

/-- A value converted to a kind that some value suggests suggests it again. -/
theorem inferredKind_of_convert
    {old : Json} (h : convert (Record.inferredKind old) literal = .ok value) :
    Record.inferredKind value = Record.inferredKind old := by
  unfold convert at h
  cases old with
  | bool _ | int _ | float _ =>
      obtain ⟨_, -, rfl⟩ := orFail_map_eq_ok h
      rfl
  | _ =>
      obtain rfl := Except.ok.inj h
      rfl

end Literal

/-! ## Names after a write -/

namespace Record

variable {record after : Record} {name literal : String} {value : Json}

@[simp] theorem store_store (record : Record) (key : String) (value : Json) :
    (record.store key value).store key value = record.store key value := by
  simp [store]

theorem resolve?_store_writeKey
    (record : Record) (name : String) (value : Json) :
    (record.store (record.writeKey name) value).fields.resolve? name =
      some (record.writeKey name) := by
  refine Fields.resolve?_insert (record.sameName_writeKey name) ?_ value
  intro other hother
  simp [writeKey, hother]

theorem lookup?_store_writeKey
    (record : Record) (name : String) (value : Json) :
    (record.store (record.writeKey name) value).fields.lookup? name =
      some value := by
  rw [Fields.lookup?, resolve?_store_writeKey]
  exact Fields.get?_insert_self _ value record.fields

theorem writeKey_store_writeKey
    (record : Record) (name : String) (value : Json) :
    (record.store (record.writeKey name) value).writeKey name =
      record.writeKey name := by
  rw [writeKey, resolve?_store_writeKey]

/-- A name without a point and without blanks at its ends is a path of one
segment. -/
theorem get_of_lookup?
    (hpoint : '.' ∉ name.toList) (htrim : Text.trim name = name)
    (h : record.fields.lookup? name = some value) :
    record.get name = present value := by
  simp [get, Text.splitAt_of_notMem hpoint, htrim, h, follow]

theorem descriptor?_or_lookup? (h : record.hasField name = true) :
    (∃ field, record.descriptor? name = some field) ∨
      record.descriptor? name = none ∧
        ∃ old, record.fields.lookup? name = some old := by
  cases hdeclared : record.descriptor? name with
  | some field => exact .inl ⟨field, rfl⟩
  | none =>
      rw [hasField, hdeclared, Option.isSome_none, Bool.false_or] at h
      obtain ⟨key, hkey⟩ := Option.isSome_iff_exists.mp h
      have hstored := (Fields.resolve?_eq_some hkey).1
      obtain ⟨old, hold⟩ :=
        Option.isSome_iff_exists.mp (Fields.isSome_get?_iff.mpr hstored)
      exact .inr ⟨rfl, old, by rw [Fields.lookup?, hkey]; exact hold⟩

theorem setLiteral_eq_ok_iff :
    record.setLiteral name literal = .ok (value, after) ↔
      record.isReadOnly name = false ∧ record.hasField name = true ∧
        Literal.convert ((record.fieldKind name).getD .string) literal =
          .ok value ∧
        after = record.store (record.writeKey name) value := by
  unfold setLiteral
  cases record.isReadOnly name
  · cases record.hasField name
    · simp
    · cases Literal.convert ((record.fieldKind name).getD .string) literal with
      | error error => simp
      | ok converted =>
          simp only [Bool.not_true, Bool.false_eq_true, if_false,
            Except.ok.injEq, Prod.mk.injEq, true_and]
          constructor
          · rintro ⟨rfl, rfl⟩
            exact ⟨rfl, rfl⟩
          · rintro ⟨rfl, rfl⟩
            exact ⟨rfl, rfl⟩
  · simp

theorem fieldKind_of_setLiteral
    (h : record.setLiteral name literal = .ok (value, after)) :
    after.fieldKind name = record.fieldKind name := by
  obtain ⟨-, hexists, hconvert, rfl⟩ := setLiteral_eq_ok_iff.mp h
  have hdescriptor :
      (record.store (record.writeKey name) value).descriptor? name =
        record.descriptor? name :=
    rfl
  unfold fieldKind at hconvert ⊢
  rw [hdescriptor, lookup?_store_writeKey]
  rcases descriptor?_or_lookup? hexists with
    ⟨field, hdeclared⟩ | ⟨hundeclared, old, hold⟩
  · simp only [hdeclared]
  · simp only [hundeclared, hold, Option.map_some, Option.getD_some]
      at hconvert ⊢
    rw [Literal.inferredKind_of_convert hconvert]

/-- A field that was written may be written again, with whatever literal is of
its kind. -/
theorem setLiteral_after
    (h : record.setLiteral name literal = .ok (value, after)) (other : String) :
    after.setLiteral name other =
      match Literal.convert ((record.fieldKind name).getD .string) other with
      | .error error => .error (.configuration
          ("cannot set '" ++ name ++ "': " ++ error.message))
      | .ok value => .ok (value, after.store (record.writeKey name) value) := by
  have hkind := fieldKind_of_setLiteral h
  obtain ⟨hopen, -, -, rfl⟩ := setLiteral_eq_ok_iff.mp h
  have hexists :
      (record.store (record.writeKey name) value).hasField name = true := by
    rw [hasField, resolve?_store_writeKey, Option.isSome_some, Bool.or_true]
  have hstillOpen :
      (record.store (record.writeKey name) value).isReadOnly name = false :=
    hopen
  rw [setLiteral, hstillOpen, hexists, hkind, writeKey_store_writeKey]
  rfl

theorem setLiteral_again
    (h : record.setLiteral name literal = .ok (value, after)) :
    after.setLiteral name literal = .ok (value, after) := by
  rw [setLiteral_after h]
  obtain ⟨-, -, hconvert, rfl⟩ := setLiteral_eq_ok_iff.mp h
  rw [hconvert]
  simp only [store_store]

theorem get_of_setLiteral
    (hpoint : '.' ∉ name.toList) (htrim : Text.trim name = name)
    (h : record.setLiteral name literal = .ok (value, after)) :
    after.get name = some value := by
  obtain ⟨-, -, hconvert, rfl⟩ := setLiteral_eq_ok_iff.mp h
  rw [get_of_lookup? hpoint htrim (record.lookup?_store_writeKey name value)]
  have hvalue := Literal.convert_ne_null hconvert
  cases value <;> simp [present] at hvalue ⊢

/-- The key under which a record keeps what a name means: the name if it is
stored, else the first stored one that agrees with it up to case, else the
declared one, else the name. -/
inductive Means (record : Record) (name : String) : String → Prop
  | itself : name ∈ record.fields.names → Means record name name
  | upToCase {before behind : List String} {key : String} :
      name ∉ record.fields.names →
      record.fields.names = before ++ key :: behind →
      (∀ other ∈ before, Text.sameName other name = false) →
      Text.sameName key name = true → Means record name key
  | declared {field : FieldDescriptor} :
      (∀ other ∈ record.fields.names, Text.sameName other name = false) →
      record.descriptor? name = some field → Means record name field.name
  | unknown :
      (∀ other ∈ record.fields.names, Text.sameName other name = false) →
      record.descriptor? name = none → Means record name name

theorem means_writeKey (record : Record) (name : String) :
    record.Means name (record.writeKey name) := by
  unfold writeKey Fields.resolve?
  by_cases hstored : (record.fields.get? name).isSome = true
  · rw [if_pos hstored]
    exact .itself (Fields.isSome_get?_iff.mp hstored)
  rw [if_neg hstored]
  cases hfind :
      record.fields.names.find? fun key => Text.sameName key name with
  | some key =>
      obtain ⟨hsame, before, behind, hsplit, hbefore⟩ :=
        List.find?_eq_some_iff_append.mp hfind
      refine .upToCase (Fields.isSome_get?_iff.not.mp hstored) hsplit ?_ hsame
      intro other hmem
      simpa using hbefore other hmem
  | none =>
      have hnone : ∀ other ∈ record.fields.names,
          Text.sameName other name = false := by
        simpa using List.find?_eq_none.mp hfind
      cases hdescriptor : record.descriptor? name with
      | some field => exact .declared hnone hdescriptor
      | none => exact .unknown hnone hdescriptor

/-- One field of the record was written: what the name means has the literal as
its value, converted to its kind, and counts as written; all else is as it
was. -/
structure WritesOne (record : Record) (name literal key : String)
    (value : Json) (after : Record) : Prop where
  means : record.Means name key
  converted :
    Literal.convert ((record.fieldKind name).getD .string) literal = .ok value
  stored : after.fields.get? key = some value
  others : ∀ other, other ≠ key →
    after.fields.get? other = record.fields.get? other
  dirty : ∀ other, other ∈ after.dirty ↔ other = key ∨ other ∈ record.dirty
  rest : { after with fields := record.fields, dirty := record.dirty } = record

theorem WritesOne.identity
    (h : record.WritesOne name literal key value after) :
    after.id = record.id ∧ after.recordType = record.recordType ∧
      after.schema = record.schema := by
  have hid := congrArg Record.id h.rest
  have hrecordType := congrArg Record.recordType h.rest
  have hschema := congrArg Record.schema h.rest
  exact ⟨hid, hrecordType, hschema⟩

theorem writesOne_of_setLiteral
    (h : record.setLiteral name literal = .ok (value, after)) :
    record.WritesOne name literal (record.writeKey name) value after := by
  obtain ⟨-, -, hconverted, hafter⟩ := setLiteral_eq_ok_iff.mp h
  rw [hafter]
  exact {
    means := record.means_writeKey name
    converted := hconverted
    stored := Fields.get?_insert_self _ _ _
    others := fun other hother => Fields.get?_insert_of_ne hother _ _
    dirty := fun other => mem_insertName
    rest := rfl }

/-- What a write of a value to a name leaves of a record: the value is found
under the name, one field is stored, under a key that was there or else the
declared one, and it is that key which counts as written. -/
structure Keeps (record : Record) (name : String) (value : Json)
    (after : Record) (key : String) : Prop where
  rest : { after with fields := record.fields, dirty := record.dirty } = record
  found : after.get name = some value
  stored : after.fields.get? key = some value
  others : ∀ other, other ≠ key →
    after.fields.get? other = record.fields.get? other
  declared : key ∉ record.fields.names →
    ∃ field, record.descriptor? name = some field ∧ field.name = key
  dirty : ∀ other, other ∈ after.dirty ↔ other = key ∨ other ∈ record.dirty
  kind : after.fieldKind name = record.fieldKind name

theorem declared_of_setLiteral
    (h : record.setLiteral name literal = .ok (value, after))
    (hnew : record.writeKey name ∉ record.fields.names) :
    ∃ field, record.descriptor? name = some field ∧
      field.name = record.writeKey name := by
  obtain ⟨-, hexists, -, -⟩ := setLiteral_eq_ok_iff.mp h
  unfold writeKey at hnew ⊢
  cases hresolve : record.fields.resolve? name with
  | some key =>
      rw [hresolve] at hnew
      exact absurd (Fields.resolve?_eq_some hresolve).1 hnew
  | none =>
      rcases descriptor?_or_lookup? hexists with
        ⟨field, hdeclared⟩ | ⟨-, old, hold⟩
      · exact ⟨field, hdeclared, by simp [hdeclared]⟩
      · simp [Fields.lookup?, hresolve] at hold

theorem keeps_of_setLiteral
    (hpoint : '.' ∉ name.toList) (htrim : Text.trim name = name)
    (h : record.setLiteral name literal = .ok (value, after)) :
    record.Keeps name value after (record.writeKey name) := by
  have hone := writesOne_of_setLiteral h
  exact {
    rest := hone.rest
    found := get_of_setLiteral hpoint htrim h
    stored := hone.stored
    others := hone.others
    declared := declared_of_setLiteral h
    dirty := hone.dirty
    kind := fieldKind_of_setLiteral h }

end Record

namespace Execution

/-- An update whose write is refused fails, and the record is as it was. -/
theorem executeNow_refused
    {record : Record} {action : Action} {config : UpdateFieldConfig}
    {error : WorkflowError}
    (hdefinition : action.definition = .updateField config)
    (h : record.setLiteral config.field
        (Template.resolve config.value record) = .error error)
    (context : ExecutionContext) (host : Host) :
    executeNow action record context host =
      (.value (.failure error.message, record), host) := by
  have hupdate : updateField config record = .error error := by
    simp [updateField, h, Bind.bind, Except.bind]
  have hdispatch :
      (dispatch action.definition record context).run =
        pure (Except.error error) := by
    rw [hdefinition, dispatch, hupdate]
    rfl
  unfold executeNow
  rw [hdispatch]
  rfl

end Execution

namespace Record

/-- A write of a literal to a name without a point and without blanks at its
ends is refused, and then an update leaves the record as it was; or the value
is found under the name, in the one field that was stored and counts as
written, the kind of the field is as before, and to write the literal again
changes nothing. -/
theorem written_literal_stands
    (record : Record) {name : String} (hpoint : '.' ∉ name.toList)
    (htrim : Text.trim name = name) (literal : String) :
    (∀ error, record.setLiteral name literal = .error error →
      ∀ action template context host,
        action.definition = .updateField ⟨name, template⟩ →
        Template.resolve template record = literal →
        Execution.executeNow action record context host =
          (.value (.failure error.message, record), host)) ∧
    ∀ value after, record.setLiteral name literal = .ok (value, after) →
      (∃ key, record.Keeps name value after key) ∧
        after.setLiteral name literal = .ok (value, after) := by
  constructor
  · intro error hrefused action template context host hdefinition hresolve
    refine Execution.executeNow_refused hdefinition ?_ context host
    rw [hresolve, hrefused]
  · intro value after hwritten
    exact ⟨⟨record.writeKey name, keeps_of_setLiteral hpoint htrim hwritten⟩,
      setLiteral_again hwritten⟩

/-- A lead with a score and without the owner that its schema declares. -/
def unownedLead : Record :=
  { ofFields "Lead" "L-1" [("Score", .int 10)] with
    schema := some ((Schema.mk "Lead" []).field "OwnerId" .identifier) }

/-- Its owner is written under another spelling; its score stays a number. -/
theorem written_literal_stands_owner :
    (unownedLead.setLiteral "ownerid" " U1 " =
        .ok (.string "U1", unownedLead.store "OwnerId" (.string "U1")) ∧
      ∃ key,
        unownedLead.Keeps "ownerid" (.string "U1")
          (unownedLead.store "OwnerId" (.string "U1")) key) ∧
    ∀ context host,
      Execution.executeNow
          (.updateField (.numbered 1) "score" "many") unownedLead context
          host =
        (.value
          (.failure
            "Configuration error: cannot set 'score': 'many' is not a valid integer",
            unownedLead), host) := by
  have howner :
      unownedLead.setLiteral "ownerid" " U1 " =
        .ok (.string "U1", unownedLead.store "OwnerId" (.string "U1")) :=
    rfl
  have hscore :
      unownedLead.setLiteral "score" "many" =
        .error (.configuration
          "cannot set 'score': 'many' is not a valid integer") :=
    rfl
  have hwritten :=
    written_literal_stands unownedLead
      (show '.' ∉ "ownerid".toList by decide) rfl " U1 "
  have hrefused :=
    written_literal_stands unownedLead
      (show '.' ∉ "score".toList by decide) rfl "many"
  exact ⟨⟨howner, (hwritten.2 _ _ howner).1⟩, fun context host =>
    hrefused.1 _ hscore _ "many" context host rfl (by decide +kernel)⟩

end Record

end RecordRules
