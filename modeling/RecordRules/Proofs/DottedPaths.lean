import RecordRules.Proofs.FieldNames
import RecordRules.Proofs.ListLiterals

/-!
# Dotted paths

A path reads a part of what its beginning reads: one more segment picks the
entry of an object that the segment means, and nothing of any other value.  A
path whose first segment stands for the identifier of the record is the one
exception, for it reads the identifier whatever follows.
-/

namespace RecordRules

/-! ## The entry that a name means -/

namespace Fields

variable {fields : Fields} {name : String} {value : Json}

/-- The value is stored under the very name, or else under the least name that
agrees with it up to case. -/
inductive Means (fields : Fields) (name : String) (value : Json) : Prop
  | exactly : (name, value) ∈ fields → Means fields name value
  | upToCase {key : String} : name ∉ names fields →
      (key, value) ∈ fields → Text.sameName key name = true →
      (∀ other ∈ names fields, Text.sameName other name = true →
        key ≤ other) →
      Means fields name value

theorem Sorted.tail {pair : String × Json} (h : Sorted (pair :: fields)) :
    Sorted fields :=
  (List.pairwise_cons.mp h).2

theorem Sorted.lt_of_mem {pair : String × Json} {other : String}
    (h : Sorted (pair :: fields)) (hmem : other ∈ names fields) :
    pair.1 < other :=
  (List.pairwise_cons.mp h).1 other hmem

theorem mem_names (h : (name, value) ∈ fields) : name ∈ names fields :=
  List.mem_map_of_mem h

theorem get?_eq_some_iff (hsorted : Sorted fields) :
    get? name fields = some value ↔ (name, value) ∈ fields := by
  induction fields with
  | nil => simp [get?]
  | cons pair rest ih =>
      obtain ⟨key, stored⟩ := pair
      by_cases hname : key = name
      · subst key
        have hrest : (name, value) ∉ rest := fun hmem =>
          String.lt_irrefl _ (hsorted.lt_of_mem (mem_names hmem))
        simp [get?, hrest, eq_comm]
      · simp [get?, hname, Ne.symm hname, ih hsorted.tail]

theorem find?_names_eq_some_iff
    (hsorted : Sorted fields) {test : String → Bool} {key : String} :
    (names fields).find? test = some key ↔
      key ∈ names fields ∧ test key = true ∧
        ∀ other ∈ names fields, test other = true → key ≤ other := by
  induction fields with
  | nil => simp [names]
  | cons pair rest ih =>
      have hnames : names (pair :: rest) = pair.1 :: names rest := rfl
      have hbelow {other : String} (hmem : other ∈ names rest) :
          pair.1 < other := hsorted.lt_of_mem hmem
      rw [hnames, List.find?_cons]
      cases htest : test pair.1 with
      | true =>
          constructor
          · intro h
            obtain rfl := Option.some.inj h
            refine ⟨List.mem_cons_self, htest, fun other hmem _ => ?_⟩
            rcases List.mem_cons.mp hmem with rfl | hmem
            · exact String.le_refl _
            · exact String.not_lt.mp (String.lt_asymm (hbelow hmem))
          · rintro ⟨hmem, -, hleast⟩
            rcases List.mem_cons.mp hmem with rfl | hmem
            · rfl
            · have hle := hleast pair.1 List.mem_cons_self htest
              exact absurd (hbelow hmem) (String.not_lt.mpr hle)
      | false =>
          rw [ih hsorted.tail]
          constructor
          · rintro ⟨hmem, hkey, hleast⟩
            refine ⟨List.mem_cons_of_mem _ hmem, hkey,
              fun other hother htother => ?_⟩
            rcases List.mem_cons.mp hother with rfl | hother
            · rw [htest] at htother
              cases htother
            · exact hleast other hother htother
          · rintro ⟨hmem, hkey, hleast⟩
            rcases List.mem_cons.mp hmem with rfl | hmem
            · rw [htest] at hkey
              cases hkey
            · exact ⟨hmem, hkey, fun other hother =>
                hleast other (List.mem_cons_of_mem _ hother)⟩

/-- What a name is looked up as among sorted names is the entry that it
means. -/
theorem lookup?_eq_some_iff (hsorted : Sorted fields) :
    lookup? name fields = some value ↔ Means fields name value := by
  by_cases hstored : name ∈ names fields
  · have hexact : resolve? name fields = some name := by
      rw [resolve?, if_pos (isSome_get?_iff.mpr hstored)]
    rw [lookup?, hexact, Option.bind_some, get?_eq_some_iff hsorted]
    constructor
    · exact .exactly
    · rintro (hmem | ⟨hnot, -⟩)
      · exact hmem
      · exact absurd hstored hnot
  · have hspelled : resolve? name fields =
        (names fields).find? fun key => Text.sameName key name := by
      rw [resolve?, if_neg (isSome_get?_iff.not.mpr hstored)]
    rw [lookup?, hspelled, Option.bind_eq_some_iff]
    constructor
    · rintro ⟨key, hkey, hvalue⟩
      obtain ⟨-, hsame, hleast⟩ := (find?_names_eq_some_iff hsorted).mp hkey
      exact .upToCase hstored ((get?_eq_some_iff hsorted).mp hvalue) hsame
        hleast
    · rintro (hmem | ⟨-, hmem, hsame, hleast⟩)
      · exact absurd (mem_names hmem) hstored
      · exact ⟨_, (find?_names_eq_some_iff hsorted).mpr
          ⟨mem_names hmem, hsame, hleast⟩, (get?_eq_some_iff hsorted).mpr hmem⟩

end Fields

namespace Record

variable {record : Record} {path segment : String}

/-! ## Segments -/

/-- The first segment of a path, without blanks at its ends. -/
def firstSegment (path : String) : String :=
  Text.trim (String.ofList (Text.pieces '.' path.toList).1)

def laterSegments (path : String) : List String :=
  (Text.pieces '.' path.toList).2.map String.ofList

theorem get_eq (record : Record) (path : String) :
    record.get path =
      match record.fields.lookup? (firstSegment path) with
      | some value => (follow value (laterSegments path)).bind present
      | none =>
        if Text.sameName (firstSegment path) "id" then some (.string record.id)
        else none := rfl

theorem pieces_snoc (path : String) (hsegment : '.' ∉ segment.toList) :
    Text.pieces '.' (path ++ "." ++ segment).toList =
      ((Text.pieces '.' path.toList).1,
        (Text.pieces '.' path.toList).2 ++ [segment.toList]) := by
  have hchars :
      (path ++ "." ++ segment).toList =
        path.toList ++ '.' :: segment.toList := by
    simp
  rw [hchars, Text.pieces_append, Text.pieces_of_notMem hsegment]

theorem firstSegment_snoc (path : String) (hsegment : '.' ∉ segment.toList) :
    firstSegment (path ++ "." ++ segment) = firstSegment path := by
  rw [firstSegment, pieces_snoc path hsegment, firstSegment]

theorem laterSegments_snoc (path : String) (hsegment : '.' ∉ segment.toList) :
    laterSegments (path ++ "." ++ segment) =
      laterSegments path ++ [segment] := by
  rw [laterSegments, pieces_snoc path hsegment, List.map_append]
  simp [laterSegments]

/-! ## One more segment -/

/-- The part of a value that a segment picks: an entry of an object that is not
null. -/
def part? (segment : String) : Json → Option Json
  | .object fields =>
    (Fields.lookup? (Text.trim segment) fields).bind present
  | _ => none

theorem follow_append (value : Json) (first second : List String) :
    follow value (first ++ second) =
      (follow value first).bind fun reached => follow reached second := by
  induction first generalizing value with
  | nil => cases value <;> rfl
  | cons segment rest ih =>
      cases value with
      | object fields =>
          simp only [List.cons_append, follow, Option.bind_assoc, ih]
      | _ => rfl

theorem present_follow_singleton (value : Json) (segment : String) :
    (follow value [segment]).bind present =
      (present value).bind (part? segment) := by
  cases value with
  | object fields =>
      simp only [follow, present, Option.bind_some, part?, Option.bind_fun_some]
  | _ => rfl

/-- The path begins with the identifier: its first segment names no field and is
`id` up to case. -/
def BeginsWithId (record : Record) (path : String) : Prop :=
  record.fields.lookup? (firstSegment path) = none ∧
    Text.sameName (firstSegment path) "id" = true

theorem BeginsWithId.get (h : record.BeginsWithId path) :
    record.get path = some (.string record.id) := by
  rw [get_eq, h.1]
  exact if_pos h.2

theorem beginsWithId_snoc_iff (hsegment : '.' ∉ segment.toList) :
    record.BeginsWithId (path ++ "." ++ segment) ↔
      record.BeginsWithId path := by
  rw [BeginsWithId, firstSegment_snoc path hsegment, BeginsWithId]

theorem get_snoc
    (hid : ¬ record.BeginsWithId path) (hsegment : '.' ∉ segment.toList) :
    record.get (path ++ "." ++ segment) =
      (record.get path).bind (part? segment) := by
  simp only [get_eq, firstSegment_snoc path hsegment,
    laterSegments_snoc path hsegment]
  cases hfirst : record.fields.lookup? (firstSegment path) with
  | none =>
      have hother : ¬ Text.sameName (firstSegment path) "id" = true :=
        fun hname => hid ⟨hfirst, hname⟩
      simp [hother]
  | some value =>
      dsimp only
      rw [follow_append, Option.bind_assoc, Option.bind_assoc]
      simp only [present_follow_singleton]

theorem present_eq_some_iff {value stored : Json} :
    present stored = some value ↔ stored = value ∧ value ≠ .null := by
  constructor
  · intro h
    cases stored with
    | null => cases h
    | _ =>
        obtain rfl := Option.some.inj h
        exact ⟨rfl, nofun⟩
  · rintro ⟨rfl, hnull⟩
    cases stored with
    | null => exact absurd rfl hnull
    | _ => rfl

theorem part?_object_eq_some_iff
    {fields : Fields} (hsorted : fields.Sorted) {value : Json} :
    part? segment (.object fields) = some value ↔
      value ≠ .null ∧ fields.Means (Text.trim segment) value := by
  simp only [part?, Option.bind_eq_some_iff, present_eq_some_iff,
    ← Fields.lookup?_eq_some_iff hsorted]
  constructor
  · rintro ⟨stored, hstored, rfl, hvalue⟩
    exact ⟨hvalue, hstored⟩
  · rintro ⟨hvalue, hstored⟩
    exact ⟨value, hstored, rfl, hvalue⟩

/-- One more segment reads an entry of the object that the path reads, unless it
is null; where the path reads no object, there is nothing. -/
structure Composes (record : Record) (path segment : String) : Prop where
  entry : ∀ fields : Fields, record.get path = some (.object fields) →
    fields.Sorted → ∀ value,
      record.get (path ++ "." ++ segment) = some value ↔
        value ≠ .null ∧ fields.Means (Text.trim segment) value
  nothing : (∀ fields, record.get path ≠ some (.object fields)) →
    record.get (path ++ "." ++ segment) = none

/-- Reading goes on from part to part exactly on the paths that do not begin
with the identifier of the record; those read the identifier, and so does every
path that goes on from them. -/
theorem composes_iff (hsegment : '.' ∉ segment.toList) :
    (record.Composes path segment ↔ ¬ record.BeginsWithId path) ∧
      (record.BeginsWithId path →
        record.get path = some (.string record.id) ∧
          record.get (path ++ "." ++ segment) = some (.string record.id)) := by
  have hreadsId (hid : record.BeginsWithId path) :
      record.get path = some (.string record.id) ∧
        record.get (path ++ "." ++ segment) = some (.string record.id) :=
    ⟨hid.get, ((beginsWithId_snoc_iff hsegment).mpr hid).get⟩
  refine ⟨⟨fun hcomposes hid => ?_, fun hid => ⟨?_, ?_⟩⟩, hreadsId⟩
  · obtain ⟨hpath, hlonger⟩ := hreadsId hid
    have hnothing := hcomposes.nothing fun fields hfields => by
      rw [hpath] at hfields
      cases hfields
    rw [hlonger] at hnothing
    cases hnothing
  · intro fields hfields hsorted value
    rw [get_snoc hid hsegment, hfields, Option.bind_some]
    exact part?_object_eq_some_iff hsorted
  · intro hnoObject
    rw [get_snoc hid hsegment]
    cases hpath : record.get path with
    | none => rfl
    | some value =>
        cases value with
        | object fields => exact absurd hpath (hnoObject fields)
        | _ => rfl

def qualified : Record :=
  ofFields "Lead" "L-1"
    [("Stage", .object [("Name", .string "Qualify"), ("Owner", .null)])]

/-- The name of the stage is read under another spelling. -/
theorem composes_iff_qualified :
    '.' ∉ " NAME ".toList ∧ ¬ qualified.BeginsWithId "stage" ∧
      qualified.Composes "stage" " NAME " ∧
      qualified.get "stage. NAME " = some (.string "Qualify") := by
  have hsegment : '.' ∉ " NAME ".toList := by decide
  have hid : ¬ qualified.BeginsWithId "stage" := by
    rintro ⟨hfirst, -⟩
    cases hfirst
  exact ⟨hsegment, hid, (composes_iff hsegment).1.mpr hid, rfl⟩

/-- A path goes on through the identifier, which is a text. -/
theorem identifier_has_parts :
    qualified.get "id" = some (.string "L-1") ∧
      qualified.get "id.name" = some (.string "L-1") ∧
      ¬ qualified.Composes "id" "name" := by
  refine ⟨rfl, rfl, fun hcomposes => ?_⟩
  have hnothing := hcomposes.nothing fun fields hfields => by cases hfields
  cases hnothing

end Record

end RecordRules
