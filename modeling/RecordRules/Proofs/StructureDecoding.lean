import Mathlib.Data.List.Basic
import RecordRules.Action.Basic
import RecordRules.Proofs.IdentifierTexts

/-!
# Structures are read as they are written

An object whose names increase, and whose every field the structure knows and
takes, is picked as it is.  What was written from a value is decoded to that
value; identifiers that are there are not drawn.
-/

namespace RecordRules

/-! ## Objects in the order of their names -/

namespace Fields

variable {name : String} {fields : Fields}

theorem get?_of_notMem (h : name ∉ names fields) :
    get? name fields = none := by
  induction fields with
  | nil => rfl
  | cons pair rest ih =>
      simp only [names, List.map_cons, List.mem_cons, not_or] at h
      rw [get?, if_neg (Ne.symm h.1)]
      exact ih h.2

/-- A name beyond all others is stored at the end. -/
theorem insert_last (value : Json) (h : ∀ key ∈ names fields, key < name) :
    insert name value fields = fields ++ [(name, value)] := by
  induction fields with
  | nil => rfl
  | cons pair rest ih =>
      obtain ⟨key, old⟩ := pair
      have hkey : key < name := h key List.mem_cons_self
      have hrest : ∀ other ∈ names rest, other < name :=
        fun other hother => h other (List.mem_cons_of_mem key hother)
      rw [insert, if_neg (String.ne_of_lt hkey).symm,
        if_neg (String.lt_asymm hkey), ih hrest]
      rfl

end Fields

namespace Json

namespace Shape

/-- The structure has a field of that name, and takes the value for it. -/
def Takes (shape : Shape) (pair : String × Json) : Prop :=
  ∃ slot, (shape.slots.find? fun slot => slot.answersTo pair.1) = some slot ∧
    slot.name = pair.1 ∧ slot.refuse pair.2 = none

/-- A field that is known, is not there yet and is not refused is picked. -/
theorem collect_cons
    {slots : List Slot} {slot : Slot} {name : String} {value : Json}
    {picked : Fields}
    (hknown : (slots.find? fun slot => slot.answersTo name) = some slot)
    (hnew : Fields.get? slot.name picked = none)
    (hfits : slot.refuse value = none) (rest : Fields) :
    collect slots picked ((name, value) :: rest) =
      collect slots (Fields.insert slot.name value picked) rest := by
  simp only [collect, hknown, hnew, hfits]
  rfl

theorem collect_taken
    {shape : Shape} {rest : Fields} (htakes : ∀ pair ∈ rest, shape.Takes pair)
    {picked : Fields} (hsorted : Fields.Sorted (picked ++ rest)) :
    collect shape.slots picked rest = .ok (picked ++ rest) := by
  induction rest generalizing picked with
  | nil =>
      rw [List.append_nil]
      rfl
  | cons pair rest ih =>
      obtain ⟨name, value⟩ := pair
      obtain ⟨slot, hknown, rfl, hfits⟩ := htakes _ List.mem_cons_self
      -- the names picked so far come before this one, which is stored last
      have hbelow : ∀ key ∈ Fields.names picked, key < slot.name := by
        simp only [Fields.Sorted, Fields.names, List.map_append,
          List.pairwise_append] at hsorted
        exact fun key hkey => hsorted.2.2 key hkey slot.name List.mem_cons_self
      have hnew : slot.name ∉ Fields.names picked :=
        fun hmem => String.lt_irrefl _ (hbelow _ hmem)
      rw [collect_cons hknown (Fields.get?_of_notMem hnew) hfits,
        Fields.insert_last value hbelow, ih, List.append_assoc]
      · rfl
      · exact fun other hother => htakes other (List.mem_cons_of_mem _ hother)
      · rwa [List.append_assoc]

theorem read_object
    {shape : Shape} {fields : Fields} (hsorted : Fields.Sorted fields)
    (htakes : fields.Forall shape.Takes) :
    shape.read (.object fields) = .ok fields :=
  collect_taken (List.forall_iff_forall_mem.mp htakes) hsorted

end Shape

/-! ## Simple values -/

variable {α β : Type}

theorem refusal_of_ok
    {decode : Json → Except DecodeError α} {json : Json} {a : α}
    (h : decode json = .ok a) :
    refusal decode json = none := by
  rw [refusal, h]

@[simp] theorem decodeText_string (text : String) :
    decodeText (.string text) = .ok text := rfl

theorem decodeInt32_int {n : Int} (h : Number.isInt32 n = true) :
    decodeInt32 (.int n) = .ok n := by
  simp only [Number.isInt32, decide_eq_true_eq] at h
  exact if_pos ⟨h.1, by omega⟩

@[simp] theorem decodeBool_bool (b : Bool) :
    decodeBool (.bool b) = .ok b := rfl

@[simp] theorem decodeAny_eq (json : Json) : decodeAny json = .ok json := rfl

@[simp] theorem decodeFields_object (fields : Fields) :
    decodeFields (.object fields) = .ok fields := rfl

@[simp] theorem decodeText?_ofText? (text : Option String) :
    decodeText? (ofText? text) = .ok text := by
  cases text <;> rfl

@[simp] theorem decodeId_toJson (id : Uuid) :
    decodeId id.toJson = .ok id := by
  simp only [decodeId, Uuid.toJson, Uuid.read?_text]

@[simp] theorem decodeTextMap_object (texts : List (String × String)) :
    decodeTextMap (.object (texts.map fun pair => (pair.1, .string pair.2))) =
      .ok texts := by
  change (texts.map fun pair => (pair.1, Json.string pair.2)).mapM _ = _
  induction texts with
  | nil => rfl
  | cons pair rest ih =>
      rw [List.map_cons, List.mapM_cons, ih]
      rfl

theorem decodeList_ofList
    {encode : α → Json} {decode : Json → Except DecodeError α}
    (h : ∀ item, decode (encode item) = .ok item) (items : List α) :
    decodeList decode (ofList encode items) = .ok items := by
  change (items.map encode).mapM decode = .ok items
  induction items with
  | nil => rfl
  | cons item rest ih =>
      rw [List.map_cons, List.mapM_cons, h, ih]
      rfl

/-- A value that is null is none. -/
theorem decodeAny?_getD {value? : Option Json} (h : value? ≠ some .null) :
    decodeOption decodeAny (value?.getD .null) = .ok value? := by
  cases value? with
  | none => rfl
  | some json =>
      cases json with
      | null => exact absurd rfl h
      | _ => rfl

theorem decodeAny?_ne_null (json : Json) :
    decodeOption decodeAny json ≠ .ok (some .null) := by
  cases json <;> simp [decodeOption, Except.map]

@[simp] theorem ok_bind {ε : Type} (a : α) (next : α → Except ε β) :
    (Except.ok a >>= next) = next a := rfl

theorem bind_eq_ok
    {ε : Type} {x : Except ε α} {next : α → Except ε β} {b : β}
    (h : (x >>= next) = .ok b) :
    ∃ a, x = .ok a ∧ next a = .ok b := by
  cases x with
  | error error => cases h
  | ok a => exact ⟨a, rfl, h⟩

@[simp] theorem pure_eq_ok {ε : Type} (a : α) :
    (pure a : Except ε α) = .ok a := rfl

end Json

/-! ## Decoding that may draw identifiers -/

section Minting

variable {α β : Type} {decode : Json → Minting α} {encode : α → Json}

@[simp] theorem liftM_ok (a : α) :
    (liftM (Except.ok a : Except Json.DecodeError α) : Minting α) = pure a :=
  rfl

theorem mintRefusal_of_pure {json : Json} {a : α} (h : decode json = pure a) :
    mintRefusal decode json = none := by
  have hrun : (decode json).run ⟨0⟩ = .ok (a, ⟨0⟩) := by
    rw [h]
    rfl
  exact Json.refusal_of_ok hrun

theorem decodeMinted_ofList
    {items : List α} (h : ∀ item ∈ items, decode (encode item) = pure item) :
    decodeMinted decode (Json.ofList encode items) = pure items := by
  change (items.map encode).mapM decode = pure items
  induction items with
  | nil => rfl
  | cons item rest ih =>
      rw [List.map_cons, List.mapM_cons, h item List.mem_cons_self, pure_bind,
        ih fun other hother => h other (List.mem_cons_of_mem item hother),
        pure_bind]

end Minting

end RecordRules
