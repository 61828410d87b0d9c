import RecordRules.Condition.Evaluate
import RecordRules.Proofs.StructureDecoding

/-!
# Lists given as literals

A list is kept as the literal that commas join, and a test of membership parts
that literal at its commas again.  So a list stands for the pieces between the
commas of its elements: for the elements themselves when there are some and
none has a comma, and for one empty item when there are none.
-/

namespace RecordRules

/-! ## Joining and parting texts -/

namespace Text

variable {separator : Char}

theorem pieces_append (separator : Char) (before after : List Char) :
    pieces separator (before ++ separator :: after) =
      ((pieces separator before).1,
        (pieces separator before).2 ++
          (pieces separator after).1 :: (pieces separator after).2) := by
  induction before with
  | nil => simp [pieces]
  | cons c rest ih =>
      rw [List.cons_append, pieces, ih, pieces]
      by_cases hc : c = separator <;> simp [hc]

theorem pieces_of_notMem {cs : List Char} (h : separator ∉ cs) :
    pieces separator cs = (cs, []) := by
  induction cs with
  | nil => rfl
  | cons c rest ih =>
      rw [List.mem_cons, not_or] at h
      rw [pieces, ih h.2]
      exact if_neg (Ne.symm h.1)

theorem splitAt_append (separator : Char) (before after : String) :
    splitAt separator (before ++ String.singleton separator ++ after) =
      splitAt separator before ++ splitAt separator after := by
  have hchars :
      (before ++ String.singleton separator ++ after).toList =
        before.toList ++ separator :: after.toList := by
    simp
  simp only [splitAt, hchars, pieces_append, List.map_cons, List.map_append,
    List.cons_append]

theorem splitAt_of_notMem {s : String} (h : separator ∉ s.toList) :
    splitAt separator s = [s] := by
  simp [splitAt, pieces_of_notMem h]

/-- Joined texts part into the pieces of each. -/
theorem splitAt_join {texts : List String} (h : texts ≠ []) :
    splitAt separator (join (String.singleton separator) texts) =
      texts.flatMap (splitAt separator) := by
  induction texts with
  | nil => exact absurd rfl h
  | cons text rest ih =>
      cases rest with
      | nil => simp [join]
      | cons next behind =>
          have hjoin :
              join (String.singleton separator) (text :: next :: behind) =
                text ++ String.singleton separator ++
                  join (String.singleton separator) (next :: behind) :=
            rfl
          rw [hjoin, splitAt_append, ih (List.cons_ne_nil next behind)]
          exact List.flatMap_cons.symm

/-- Texts without separators are parted again as they were joined. -/
theorem splitAt_join_of_notMem
    {texts : List String} (hsome : texts ≠ [])
    (hplain : ∀ text ∈ texts, separator ∉ text.toList) :
    splitAt separator (join (String.singleton separator) texts) = texts := by
  have hpieces :
      texts.flatMap (splitAt separator) = texts.flatMap fun text => [text] :=
    List.flatMap_congr fun text hmem => splitAt_of_notMem (hplain text hmem)
  rw [splitAt_join hsome, hpieces, List.flatMap_singleton']

end Text

namespace Condition

/-! ## Stored conditions -/

/-- A condition stored with an operator in any spelling and a value of any
form is read. -/
theorem ofJson_object (field spelling : String) (value : Json) :
    ofJson (.object
        [("field", .string field), ("operator", .string spelling),
          ("value", value)]) =
      .ok ⟨field, Operator.ofText spelling, literal value⟩ := by
  have hoperator :
      Operator.ofJson (.string spelling) = .ok (Operator.ofText spelling) :=
    rfl
  have hread : shape.read (.object
      [("field", .string field), ("operator", .string spelling),
        ("value", value)]) = .ok _ :=
    Json.Shape.read_object
      (by simp only [Fields.Sorted, Fields.names, List.map]; decide)
      ⟨⟨_, rfl, rfl, rfl⟩, ⟨_, rfl, rfl, Json.refusal_of_ok hoperator⟩,
        ⟨_, rfl, rfl, rfl⟩⟩
  simp [ofJson, hread, Json.need, Json.orElse, Fields.get?, hoperator]

theorem literal_ofList (values : List String) :
    literal (Json.ofList .string values) = some (Text.join "," values) := by
  have htexts :
      (values.map Json.string).filterMap Json.text? = values := by
    rw [List.filterMap_map]
    exact List.filterMap_some
  simp only [Json.ofList, literal, htexts]

/-! ## Membership -/

/-- What of a text counts when it is looked for in a list. -/
def canonical (s : String) : String := Text.lowercase (Text.trim s)

/-- The items that a list of values stands for when it is kept as a literal. -/
def listItems : List String → List String
  | [] => [""]
  | value :: rest => (value :: rest).flatMap (Text.splitAt ',')

theorem splitAt_join_eq (values : List String) :
    Text.splitAt ',' (Text.join "," values) = listItems values := by
  cases values with
  | nil => rfl
  | cons value rest => exact Text.splitAt_join (List.cons_ne_nil value rest)

theorem listItems_of_notMem
    {values : List String} (hsome : values ≠ [])
    (hplain : ∀ value ∈ values, ',' ∉ value.toList) :
    listItems values = values := by
  rw [← splitAt_join_eq]
  exact Text.splitAt_join_of_notMem hsome hplain

theorem listContains_join (values : List String) (text : String) :
    listContains (Text.join "," values) text = true ↔
      ∃ item ∈ listItems values, canonical item = canonical text := by
  rw [← splitAt_join_eq]
  simp [listContains, canonical]

/-- The stored form of a condition with a list of values. -/
def storedList (field spelling : String) (values : List String) : Json :=
  .object
    [("field", .string field), ("operator", .string spelling),
      ("value", Json.ofList .string values)]

/-- The condition that a field is not in a list of values. -/
def notInList (field : String) (values : List String) : Condition :=
  { inList field values with operator := .notIn }

theorem ofJson_storedList
    (field spelling : String) (values : List String) :
    ofJson (storedList field spelling values) =
      .ok { inList field values with operator := .ofText spelling } := by
  rw [storedList, ofJson_object, literal_ofList]
  rfl

/-- Not to be among the items of a literal is the negation of being among them,
also for an absent field or literal. -/
theorem notIn_holds
    (field : String) (literal : Option String) (record : Record)
    (prior : Option Record) :
    holds ⟨field, .notIn, literal⟩ record prior =
      !holds ⟨field, .isIn, literal⟩ record prior := by
  simp only [holds]
  cases record.text field <;> cases literal <;> rfl

theorem notInList_holds
    (field : String) (values : List String) (record : Record)
    (prior : Option Record) :
    (notInList field values).holds record prior =
      !(inList field values).holds record prior :=
  notIn_holds field _ record prior

theorem inList_holds_iff
    {record : Record} {field text : String}
    (htext : record.text field = some text) (values : List String)
    (prior : Option Record) :
    (inList field values).holds record prior = true ↔
      ∃ item ∈ listItems values, canonical item = canonical text := by
  rw [← listContains_join]
  simp only [holds, inList, htext]

/-- A stored list is read as the condition that the constructor builds.  It
holds exactly when one of the items that its values stand for equals the text
of the field up to blanks at the ends and case: one of the values themselves,
when there are some and none has a comma.  Its counterpart is its negation. -/
theorem list_literal_means_items
    {record : Record} {field text : String}
    (htext : record.text field = some text) (values : List String)
    (prior : Option Record) :
    (∀ spelling, Operator.ofText spelling = .isIn →
      ofJson (storedList field spelling values) = .ok (inList field values)) ∧
    (∀ spelling, Operator.ofText spelling = .notIn →
      ofJson (storedList field spelling values) =
        .ok (notInList field values)) ∧
    ((inList field values).holds record prior = true ↔
      ∃ item ∈ listItems values, canonical item = canonical text) ∧
    (values ≠ [] → (∀ value ∈ values, ',' ∉ value.toList) →
      ((inList field values).holds record prior = true ↔
        ∃ value ∈ values, canonical value = canonical text)) ∧
    (notInList field values).holds record prior =
      !(inList field values).holds record prior := by
  refine ⟨fun spelling hspelling => ?_, fun spelling hspelling => ?_,
    inList_holds_iff htext values prior, fun hsome hplain => ?_,
    notInList_holds field values record prior⟩
  · rw [ofJson_storedList, hspelling]
    rfl
  · rw [ofJson_storedList, hspelling]
    rfl
  · rw [inList_holds_iff htext, listItems_of_notMem hsome hplain]

/-- An office whose region is written in capitals. -/
def office : Record :=
  .ofFields "Office" "o-1" [("Region", .string "EMEA")]

theorem list_literal_means_items_region :
    office.text "Region" = some "EMEA" ∧
    (∀ spelling, Operator.ofText spelling = .isIn →
      ofJson (storedList "Region" spelling ["apac", " emea "]) =
        .ok (inList "Region" ["apac", " emea "])) ∧
    (∀ spelling, Operator.ofText spelling = .notIn →
      ofJson (storedList "Region" spelling ["apac", " emea "]) =
        .ok (notInList "Region" ["apac", " emea "])) ∧
    ((inList "Region" ["apac", " emea "]).holds office none = true ↔
      ∃ item ∈ listItems ["apac", " emea "],
        canonical item = canonical "EMEA") ∧
    (["apac", " emea "] ≠ [] →
      (∀ value ∈ ["apac", " emea "], ',' ∉ value.toList) →
      ((inList "Region" ["apac", " emea "]).holds office none = true ↔
        ∃ value ∈ ["apac", " emea "], canonical value = canonical "EMEA")) ∧
    (notInList "Region" ["apac", " emea "]).holds office none =
      !(inList "Region" ["apac", " emea "]).holds office none :=
  ⟨rfl, list_literal_means_items rfl ["apac", " emea "] none⟩

/-- A customer whose name has a comma, and who has an empty nickname. -/
def customer : Record :=
  .ofFields "Customer" "c-1"
    [("Name", .string "Acme, Inc."), ("Nickname", .string "")]

/-- A value with a comma is not found in the list that holds it alone, and an
empty text is found in the list that holds nothing. -/
theorem comma_parts_value :
    (customer.text "Name" = some "Acme, Inc." ∧
      (inList "Name" ["Acme, Inc."]).holds customer none = false) ∧
    (customer.text "Nickname" = some "" ∧
      (inList "Nickname" []).holds customer none = true) :=
  ⟨⟨rfl, by decide⟩, rfl, by decide⟩

end Condition

end RecordRules
