import RecordRules.Proofs.ActionOutcomes

/-!
# What actions write to a record

A field that an action wrote counts as written until the record is cleared, and
is among the changes with the value it has by then.  A field that no action
wrote keeps its value.
-/

namespace RecordRules

namespace Fields

/-! ## Storing pairs -/

@[simp] theorem get?_insert_self
    (name : String) (value : Json) (fields : Fields) :
    get? name (insert name value fields) = some value := by
  induction fields with
  | nil => simp [insert, get?]
  | cons pair rest ih =>
      obtain ⟨key, old⟩ := pair
      by_cases hname : name = key
      · simp [insert, get?, hname]
      · by_cases hless : name < key
        · simp [insert, get?, hname, hless]
        · simp only [insert, if_neg hname, if_neg hless, get?,
            if_neg (Ne.symm hname)]
          exact ih

theorem get?_insert_of_ne
    {name other : String} (h : other ≠ name) (value : Json) (fields : Fields) :
    get? other (insert name value fields) = get? other fields := by
  induction fields with
  | nil => simp [insert, get?, Ne.symm h]
  | cons pair rest ih =>
      obtain ⟨key, old⟩ := pair
      by_cases hname : name = key
      · subst hname
        simp [insert, get?, Ne.symm h]
      · by_cases hless : name < key
        · simp [insert, get?, hname, hless, Ne.symm h]
        · simp only [insert, if_neg hname, if_neg hless, get?, ih]

@[simp] theorem insert_insert_self
    (name : String) (value : Json) (fields : Fields) :
    insert name value (insert name value fields) = insert name value fields := by
  induction fields with
  | nil => simp [insert]
  | cons pair rest ih =>
      obtain ⟨key, old⟩ := pair
      by_cases hname : name = key
      · simp [insert, hname]
      · by_cases hless : name < key
        · simp [insert, hname, hless]
        · simp only [insert, if_neg hname, if_neg hless, ih]

theorem get?_insertAll_of_notMem
    {name : String} {pairs : List (String × Json)}
    (h : name ∉ pairs.map Prod.fst) (fields : Fields) :
    get? name (insertAll fields pairs) = get? name fields := by
  induction pairs generalizing fields with
  | nil => rfl
  | cons pair rest ih =>
      rw [List.map_cons, List.mem_cons, not_or] at h
      change get? name (insertAll (insert pair.1 pair.2 fields) rest) = _
      rw [ih h.2, get?_insert_of_ne h.1]

theorem get?_insertAll_of_mem
    {name : String} {value : Json} {pairs : List (String × Json)}
    (hmem : name ∈ pairs.map Prod.fst)
    (hvalue : ∀ pair ∈ pairs, pair.1 = name → pair.2 = value)
    (fields : Fields) :
    get? name (insertAll fields pairs) = some value := by
  induction pairs generalizing fields with
  | nil => simp at hmem
  | cons pair rest ih =>
      change get? name (insertAll (insert pair.1 pair.2 fields) rest) = _
      by_cases hrest : name ∈ rest.map Prod.fst
      · exact ih hrest
          (fun other hother => hvalue other (List.mem_cons_of_mem pair hother)) _
      · have hhead : name = pair.1 := by
          simpa [hrest] using hmem
        rw [get?_insertAll_of_notMem hrest, ← hhead, get?_insert_self,
          hvalue pair List.mem_cons_self hhead.symm]

theorem mem_names_insert
    {name other : String} {value : Json} {fields : Fields} :
    other ∈ names (insert name value fields) ↔
      other = name ∨ other ∈ names fields := by
  induction fields with
  | nil => simp [insert, names]
  | cons pair rest ih =>
      obtain ⟨key, old⟩ := pair
      by_cases hname : name = key
      · simp [insert, names, hname]
      · by_cases hless : name < key
        · simp [insert, names, hname, hless]
        · simp only [names] at ih
          simp only [insert, if_neg hname, if_neg hless, names, List.map_cons,
            List.mem_cons, ih]
          exact or_left_comm

theorem mem_names_insertAll
    {name : String} {pairs : List (String × Json)} {fields : Fields} :
    name ∈ names (insertAll fields pairs) ↔
      name ∈ names fields ∨ name ∈ pairs.map Prod.fst := by
  induction pairs generalizing fields with
  | nil => simp [insertAll]
  | cons pair rest ih =>
      change name ∈ names (insertAll (insert pair.1 pair.2 fields) rest) ↔ _
      rw [ih, mem_names_insert, List.map_cons, List.mem_cons, or_assoc,
        or_left_comm]

end Fields

/-! ## Names that count as written -/

theorem mem_insertName {name other : String} {names : List String} :
    other ∈ insertName name names ↔ other = name ∨ other ∈ names := by
  induction names with
  | nil => simp [insertName]
  | cons head rest ih =>
      by_cases hname : name = head
      · simp [insertName, hname]
      · by_cases hless : name < head
        · simp [insertName, hname, hless]
        · simp only [insertName, if_neg hname, if_neg hless, List.mem_cons, ih]
          exact or_left_comm

namespace Record

/-- Every field that counts as written has a value. -/
def KeepsWritten (record : Record) : Prop :=
  ∀ key ∈ record.dirty, (record.fields.get? key).isSome

theorem isDirty_iff (record : Record) :
    record.isDirty = true ↔ ∃ key, key ∈ record.dirty := by
  rw [isDirty, ← List.isEmpty_eq_false_iff_exists_mem]
  simp

theorem mem_changes {record : Record} {pair : String × Json} :
    pair ∈ record.changes ↔
      pair.1 ∈ record.dirty ∧ record.fields.get? pair.1 = some pair.2 := by
  obtain ⟨name, value⟩ := pair
  simp [changes]

/-- The changes hold exactly what counts as written and has a value. -/
theorem mem_names_changes {record : Record} {key : String} :
    key ∈ record.changes.names ↔
      key ∈ record.dirty ∧ (record.fields.get? key).isSome := by
  rw [Fields.names, List.mem_map]
  constructor
  · rintro ⟨pair, hpair, rfl⟩
    obtain ⟨hdirty, hvalue⟩ := mem_changes.mp hpair
    exact ⟨hdirty, by simp [hvalue]⟩
  · rintro ⟨hdirty, hsome⟩
    obtain ⟨value, hvalue⟩ := Option.isSome_iff_exists.mp hsome
    exact ⟨(key, value), mem_changes.mpr ⟨hdirty, hvalue⟩, rfl⟩

/-- The changes give what counts as written its present value. -/
theorem get?_changes {record : Record} {key : String}
    (hkey : key ∈ record.dirty) :
    Fields.get? key record.changes = record.fields.get? key := by
  have hlist : ∀ names : List String,
      Fields.get? key (names.filterMap fun name =>
          (record.fields.get? name).map fun value => (name, value)) =
        if key ∈ names then record.fields.get? key else none := by
    intro names
    induction names with
    | nil => rfl
    | cons name rest ih =>
        by_cases hname : name = key
        · subst hname
          cases hvalue : record.fields.get? name with
          | none => simp [hvalue, ih]
          | some value => simp [hvalue, Fields.get?]
        · cases hvalue : record.fields.get? name with
          | none => simp [hvalue, ih, Ne.symm hname]
          | some value => simp [hvalue, Fields.get?, ih, hname, Ne.symm hname]
  rw [changes, hlist, if_pos hkey]

/-- Storing the changes stores the present value of what counts as written. -/
theorem get?_insertAll_changes
    {record : Record} (hkeeps : record.KeepsWritten) {key : String}
    (hkey : key ∈ record.dirty) (fields : Fields) :
    Fields.get? key (fields.insertAll record.changes) =
      record.fields.get? key := by
  obtain ⟨value, hvalue⟩ := Option.isSome_iff_exists.mp (hkeeps key hkey)
  rw [hvalue]
  refine Fields.get?_insertAll_of_mem ?_ ?_ fields
  · exact mem_names_changes.mpr ⟨hkey, hkeeps key hkey⟩
  · rintro pair hpair rfl
    have hpresent := (mem_changes.mp hpair).2
    rw [hvalue] at hpresent
    exact (Option.some.inj hpresent).symm

end Record

/-! ## Writes of actions -/

/-- Did one of the actions write the field? -/
def WritesKey (actions : List Performed) (key : String) : Prop :=
  ∃ performed ∈ actions, performed.writtenKey = some key

theorem not_writesKey_nil (key : String) : ¬ WritesKey [] key := by
  simp [WritesKey]

theorem writesKey_append
    {first second : List Performed} {key : String} :
    WritesKey (first ++ second) key ↔
      WritesKey first key ∨ WritesKey second key := by
  simp [WritesKey, or_and_right, exists_or]

theorem writesKey_singleton {performed : Performed} {key : String} :
    WritesKey [performed] key ↔ performed.writtenKey = some key := by
  simp [WritesKey]

namespace Wrote

variable {actions : List Performed} {before after : Record}

theorem identity (h : Wrote actions before after) :
    after.recordType = before.recordType ∧ after.id = before.id := by
  induction h with
  | none record => exact ⟨rfl, rfl⟩
  | one performed hfaithful =>
      unfold Performed.Faithful at hfaithful
      split at hfaithful
      · obtain ⟨value, hafter⟩ := hfaithful
        rw [hafter]
        exact ⟨rfl, rfl⟩
      · rw [hfaithful]
        exact ⟨rfl, rfl⟩
  | append _ _ ihfirst ihsecond =>
      exact ⟨ihsecond.1.trans ihfirst.1, ihsecond.2.trans ihfirst.2⟩

/-- What counts as written is what counted so before and what was written. -/
theorem mem_dirty (h : Wrote actions before after) (key : String) :
    key ∈ after.dirty ↔ key ∈ before.dirty ∨ WritesKey actions key := by
  induction h with
  | none record => simp [not_writesKey_nil]
  | one performed hfaithful =>
      rw [writesKey_singleton]
      unfold Performed.Faithful at hfaithful
      split at hfaithful
      · rename_i target htarget
        obtain ⟨value, hafter⟩ := hfaithful
        rw [hafter, htarget, Option.some.injEq, eq_comm, or_comm]
        exact mem_insertName
      · rename_i htarget
        simp [hfaithful, htarget]
  | append _ _ ihfirst ihsecond =>
      rw [ihsecond, ihfirst, writesKey_append, or_assoc]

theorem get?_of_not_writesKey
    (h : Wrote actions before after) {key : String}
    (hkey : ¬ WritesKey actions key) :
    after.fields.get? key = before.fields.get? key := by
  induction h with
  | none record => rfl
  | one performed hfaithful =>
      rw [writesKey_singleton] at hkey
      unfold Performed.Faithful at hfaithful
      split at hfaithful
      · rename_i target htarget
        obtain ⟨value, hafter⟩ := hfaithful
        rw [hafter]
        refine Fields.get?_insert_of_ne ?_ _ _
        rintro rfl
        exact hkey htarget
      · rw [hfaithful]
  | append _ _ ihfirst ihsecond =>
      rw [writesKey_append, not_or] at hkey
      rw [ihsecond hkey.2, ihfirst hkey.1]

/-- A written field has a value, and writing takes no value away. -/
theorem isSome_get?
    (h : Wrote actions before after) {key : String}
    (hkey : (before.fields.get? key).isSome ∨ WritesKey actions key) :
    (after.fields.get? key).isSome := by
  induction h with
  | none record => simpa [not_writesKey_nil] using hkey
  | one performed hfaithful =>
      rw [writesKey_singleton] at hkey
      unfold Performed.Faithful at hfaithful
      split at hfaithful
      · rename_i target htarget
        obtain ⟨value, hafter⟩ := hfaithful
        rw [hafter]
        by_cases heq : key = target
        · simp [Record.store, heq]
        · rw [htarget, Option.some.injEq] at hkey
          rw [Record.store, Fields.get?_insert_of_ne heq]
          exact hkey.resolve_right (Ne.symm heq)
      · rename_i htarget
        rw [hfaithful]
        simpa [htarget] using hkey
  | append _ _ ihfirst ihsecond =>
      rw [writesKey_append, ← or_assoc] at hkey
      exact ihsecond (hkey.imp_left ihfirst)

theorem keepsWritten
    (h : Wrote actions before after) (hbefore : before.KeepsWritten) :
    after.KeepsWritten := fun key hkey =>
  h.isSome_get? (((h.mem_dirty key).mp hkey).imp_left (hbefore key))

end Wrote

end RecordRules
