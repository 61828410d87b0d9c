import Mathlib.Data.List.Infix
import RecordRules.Proofs.DecimalValues
import RecordRules.Proofs.ListLiterals

/-!
# How operators hang together

Three operators are the negations of three others, whatever is absent, so that a
list of their conditions can be negated as a whole.  Equal texts begin and end
alike, what begins or ends a text is contained in it, and a value lies between
two bounds when it is a decimal that compares with both of them so.
-/

namespace RecordRules

/-! ## Parts of texts -/

namespace Text

variable {separator : Char} {text part : List Char}

theorem startsWith_iff : startsWith text part = true ↔ part <+: text := by
  induction text generalizing part with
  | nil => cases part <;> simp [startsWith]
  | cons c rest ih =>
      cases part with
      | nil => simp [startsWith]
      | cons p others =>
          rw [startsWith, Bool.and_eq_true, beq_iff_eq, ih,
            List.cons_prefix_cons, eq_comm]

theorem endsWith_iff : endsWith text part = true ↔ part <:+ text := by
  rw [endsWith, startsWith_iff, List.reverse_prefix]

theorem contains_iff : contains text part = true ↔ part <:+: text := by
  induction text with
  | nil => simp [contains, startsWith_iff]
  | cons c rest ih =>
      rw [contains, Bool.or_eq_true, startsWith_iff, ih, List.infix_cons_iff]

theorem cutChars_of_notMem (h : separator ∉ text) (rest : List Char) :
    cutChars separator (text ++ separator :: rest) = some (text, rest) := by
  induction text with
  | nil => simp [cutChars]
  | cons c others ih =>
      rw [List.mem_cons, not_or] at h
      simp [cutChars, Ne.symm h.1, ih h.2]

/-- A text is cut at the first separator, so that a later one is left behind
it. -/
theorem cutChars_of_mem (h : separator ∈ text) (rest : List Char) :
    ∃ before after,
      cutChars separator (text ++ separator :: rest) = some (before, after) ∧
        separator ∈ after := by
  induction text with
  | nil => simp at h
  | cons c others ih =>
      by_cases hc : c = separator
      · exact ⟨[], others ++ separator :: rest, by simp [cutChars, hc],
          by simp⟩
      · have hothers : separator ∈ others :=
          (List.mem_cons.mp h).resolve_left (Ne.symm hc)
        obtain ⟨before, after, hcut, hmem⟩ := ih hothers
        exact ⟨c :: before, after, by simp [cutChars, hc, hcut], hmem⟩

end Text

open Number (Decimal)

/-! ## Negated conditions -/

namespace Operator

/-- The operators that some other operator negates. -/
def negatable : List Operator :=
  [.equals, .notEquals, .isIn, .notIn, .isNull, .isNotNull]

/-- The operator that negates a negatable one; the others stay. -/
def negated : Operator → Operator
  | .equals => .notEquals
  | .notEquals => .equals
  | .isIn => .notIn
  | .notIn => .isIn
  | .isNull => .isNotNull
  | .isNotNull => .isNull
  | operator => operator

end Operator

namespace Condition

variable {record : Record} {prior : Option Record}

def negated (condition : Condition) : Condition :=
  { condition with operator := condition.operator.negated }

theorem isNotNull_holds
    (field : String) (literal : Option String) (record : Record)
    (prior : Option Record) :
    holds ⟨field, .isNotNull, literal⟩ record prior =
      !holds ⟨field, .isNull, literal⟩ record prior := by
  simp only [holds]
  cases record.text field <;> rfl

theorem negated_holds
    {condition : Condition}
    (hnegatable : condition.operator ∈ Operator.negatable)
    (record : Record) (prior : Option Record) :
    condition.negated.holds record prior = !condition.holds record prior := by
  obtain ⟨field, operator, literal⟩ := condition
  simp only [Operator.negatable, List.mem_cons, List.not_mem_nil, or_false]
    at hnegatable
  have hin := notIn_holds field literal record prior
  have hnull := isNotNull_holds field literal record prior
  rcases hnegatable with rfl | rfl | rfl | rfl | rfl | rfl
  · rfl
  · exact (Bool.not_not _).symm
  · exact hin
  · rw [hin, Bool.not_not]
    rfl
  · exact hnull
  · rw [hnull, Bool.not_not]
    rfl

theorem listHolds_negated
    {conditions : List Condition} (hsome : conditions ≠ [])
    (hnegatable : ∀ condition ∈ conditions,
      condition.operator ∈ Operator.negatable)
    (record : Record) (prior : Option Record) :
    listHolds (conditions.map negated) .all record prior =
      !listHolds conditions .any record prior := by
  have hempty : conditions.isEmpty = false := by simpa using hsome
  simp only [listHolds, List.isEmpty_map, hempty, Bool.false_or, List.all_map,
    List.not_any_eq_all_not]
  rw [Bool.eq_iff_iff, List.all_eq_true, List.all_eq_true]
  refine forall₂_congr fun condition hmem => ?_
  rw [Function.comp_apply, negated_holds (hnegatable condition hmem)]

/-- Only which conditions there are counts, not how often and in which
order. -/
theorem listHolds_congr
    {conditions others : List Condition}
    (hsame : ∀ condition, condition ∈ conditions ↔ condition ∈ others)
    (mode : LogicMode) (record : Record) (prior : Option Record) :
    listHolds conditions mode record prior =
      listHolds others mode record prior := by
  have hempty : conditions.isEmpty = others.isEmpty := by
    rw [Bool.eq_iff_iff, List.isEmpty_iff, List.isEmpty_iff,
      List.eq_nil_iff_forall_not_mem, List.eq_nil_iff_forall_not_mem]
    simp only [hsame]
  unfold listHolds
  rw [hempty]
  congr 1
  cases mode with
  | all =>
      rw [Bool.eq_iff_iff]
      simp only [List.all_eq_true, hsame]
  | any =>
      rw [Bool.eq_iff_iff]
      simp only [List.any_eq_true, hsame]

/-! ## Tests of texts -/

/-- How the operators on one field and one literal hang together: three negate
three others, two are false without a text or a literal and opposite with both,
and a test implies every weaker one. -/
structure OperatorsAgree
    (text literal : Option String) (holds : Operator → Bool) : Prop where
  notEquals : holds .notEquals = !holds .equals
  notIn : holds .notIn = !holds .isIn
  isNotNull : holds .isNotNull = !holds .isNull
  absent : text = none ∨ literal = none →
    holds .contains = false ∧ holds .notContains = false
  opposite : text ≠ none → literal ≠ none →
    holds .notContains = !holds .contains
  ofEquals : text ≠ none → literal ≠ none → holds .equals = true →
    holds .startsWith = true ∧ holds .endsWith = true
  ofStartsWith : holds .startsWith = true → holds .contains = true
  ofEndsWith : holds .endsWith = true → holds .contains = true

theorem textTest_of_imp
    {test weaker : List Char → List Char → Bool} {actual literal : Option String}
    (himp : ∀ text part, test text part = true → weaker text part = true)
    (h : textTest test actual literal = true) :
    textTest weaker actual literal = true := by
  cases actual with
  | none => cases h
  | some a =>
      cases literal with
      | none => cases h
      | some b => exact himp _ _ h

theorem lowerChars_eq_of_textEquals {a b : String}
    (h : textEquals (some a) (some b) = true) :
    Text.lowerChars a.toList = Text.lowerChars b.toList :=
  String.ofList_injective (beq_iff_eq.mp h)

theorem operatorsAgree
    (record : Record) (prior : Option Record) (field : String)
    (literal : Option String) :
    OperatorsAgree (record.text field) literal fun operator =>
      (Condition.mk field operator literal).holds record prior where
  notEquals := rfl
  notIn := notIn_holds field literal record prior
  isNotNull := isNotNull_holds field literal record prior
  absent := by
    simp only [holds]
    rintro (habsent | habsent)
    · rw [habsent]
      exact ⟨rfl, rfl⟩
    · rw [habsent]
      cases record.text field <;> exact ⟨rfl, rfl⟩
  opposite := by
    simp only [holds]
    intro htext hliteral
    obtain ⟨a, ha⟩ := Option.ne_none_iff_exists'.mp htext
    obtain ⟨b, rfl⟩ := Option.ne_none_iff_exists'.mp hliteral
    rw [ha]
    rfl
  ofEquals := by
    simp only [holds]
    intro htext hliteral hequal
    obtain ⟨a, ha⟩ := Option.ne_none_iff_exists'.mp htext
    obtain ⟨b, rfl⟩ := Option.ne_none_iff_exists'.mp hliteral
    rw [ha] at hequal ⊢
    have hlower := lowerChars_eq_of_textEquals hequal
    constructor
    · rw [textTest, hlower, Text.startsWith_iff]
    · rw [textTest, hlower, Text.endsWith_iff]
  ofStartsWith := textTest_of_imp fun text part h =>
    Text.contains_iff.mpr (Text.startsWith_iff.mp h).isInfix
  ofEndsWith := textTest_of_imp fun text part h =>
    Text.contains_iff.mpr (Text.endsWith_iff.mp h).isInfix

/-! ## Bounds -/

theorem compareTexts_of_decimals
    {a b : String} {x y : Decimal}
    (ha : Decimal.read? a = some x) (hb : Decimal.read? b = some y) :
    compareTexts a b = some (x.compare y) := by
  rw [compareTexts, ha, hb]

theorem greaterThanOrEqual_holds_of_decimals
    {field text bound : String} {x y : Decimal}
    (htext : record.text field = some text) (hx : Decimal.read? text = some x)
    (hy : Decimal.read? bound = some y) :
    holds ⟨field, .greaterThanOrEqual, some bound⟩ record prior =
      (x.compare y != .lt) := by
  simp only [holds, htext, compare, compareTexts_of_decimals hx hy]
  cases x.compare y <;> rfl

theorem lessThanOrEqual_holds_of_decimals
    {field text bound : String} {x y : Decimal}
    (htext : record.text field = some text) (hx : Decimal.read? text = some x)
    (hy : Decimal.read? bound = some y) :
    holds ⟨field, .lessThanOrEqual, some bound⟩ record prior =
      (x.compare y != .gt) := by
  simp only [holds, htext, compare, compareTexts_of_decimals hx hy]
  cases x.compare y <;> rfl

theorem comma_notMem {s : String} {d : Decimal}
    (h : Decimal.read? s = some d) : ',' ∉ s.toList := by
  intro hmem
  cases Decimal.isDecimalChar_of_read? h ',' hmem

/-- Two bounds are parted behind the lower one, unless it has a comma; then
there is a comma left in what is taken for the upper one. -/
theorem cut_bounds (low high : String) :
    Text.cut ',' (low ++ "," ++ high) = some (low, high) ∨
      ∃ before after, Text.cut ',' (low ++ "," ++ high) = some (before, after) ∧
        ',' ∈ low.toList ∧ ',' ∈ after.toList := by
  have hchars :
      (low ++ "," ++ high).toList = low.toList ++ ',' :: high.toList := by
    simp
  by_cases hcomma : ',' ∈ low.toList
  · obtain ⟨before, after, hcut, hmem⟩ :=
      Text.cutChars_of_mem hcomma high.toList
    exact .inr ⟨String.ofList before, String.ofList after,
      by rw [Text.cut, hchars, hcut]; rfl, hcomma, by simpa using hmem⟩
  · refine .inl ?_
    rw [Text.cut, hchars, Text.cutChars_of_notMem hcomma]
    simp

theorem isBetween_iff {actual : Option String} {literal : String} :
    isBetween actual (some literal) = true ↔
      ∃ low high text x y z, Text.cut ',' literal = some (low, high) ∧
        actual = some text ∧ Decimal.read? text = some x ∧
        Decimal.read? low = some y ∧ Decimal.read? high = some z ∧
        (x.compare y != .lt) = true ∧ (x.compare z != .gt) = true := by
  simp [isBetween, Option.getD_eq_iff, Option.bind_eq_some_iff]

theorem between_holds_iff
    (field low high : String) (record : Record) (prior : Option Record) :
    (between field low high).holds record prior = true ↔
      holds ⟨field, .greaterThanOrEqual, some low⟩ record prior = true ∧
      holds ⟨field, .lessThanOrEqual, some high⟩ record prior = true ∧
      ∃ text x y z, record.text field = some text ∧
        Decimal.read? text = some x ∧ Decimal.read? low = some y ∧
        Decimal.read? high = some z := by
  change isBetween (record.text field) (some (low ++ "," ++ high)) = true ↔ _
  rw [isBetween_iff]
  constructor
  · rintro ⟨before, after, text, x, y, z, hcut, htext, hx, hy, hz, hlow, hhigh⟩
    rcases cut_bounds low high with hbounds | ⟨first, rest, hbounds, -, hcomma⟩
    · obtain ⟨rfl, rfl⟩ : before = low ∧ after = high := by
        simpa [hbounds, eq_comm] using hcut
      refine ⟨?_, ?_, text, x, y, z, htext, hx, hy, hz⟩
      · rw [greaterThanOrEqual_holds_of_decimals htext hx hy, hlow]
      · rw [lessThanOrEqual_holds_of_decimals htext hx hz, hhigh]
    · -- what is taken for the upper bound has a comma, and is no decimal
      obtain ⟨-, rfl⟩ : first = before ∧ rest = after := by
        simpa [hbounds] using hcut
      exact absurd hcomma (comma_notMem hz)
  · rintro ⟨hlow, hhigh, text, x, y, z, htext, hx, hy, hz⟩
    -- the lower bound is a decimal, so the first comma is the one between them
    rw [greaterThanOrEqual_holds_of_decimals htext hx hy] at hlow
    rw [lessThanOrEqual_holds_of_decimals htext hx hz] at hhigh
    have hbounds : Text.cut ',' (low ++ "," ++ high) = some (low, high) :=
      (cut_bounds low high).resolve_right fun ⟨_, _, _, hcomma, _⟩ =>
        comma_notMem hy hcomma
    exact ⟨low, high, text, x, y, z, hbounds, htext, hx, hy, hz, hlow, hhigh⟩

/-- The operators cohere: on one field and one literal they agree with each
other, a field lies between two bounds if it compares with both so and all three
are decimals, a list of negatable conditions is negated by negating each of them
and the way they are combined, and of a list only counts which conditions it
has. -/
theorem operators_cohere (record : Record) (prior : Option Record) :
    (∀ field literal,
      OperatorsAgree (record.text field) literal fun operator =>
        (Condition.mk field operator literal).holds record prior) ∧
    (∀ field low high,
      (between field low high).holds record prior = true ↔
        holds ⟨field, .greaterThanOrEqual, some low⟩ record prior = true ∧
        holds ⟨field, .lessThanOrEqual, some high⟩ record prior = true ∧
        ∃ text x y z, record.text field = some text ∧
          Decimal.read? text = some x ∧ Decimal.read? low = some y ∧
          Decimal.read? high = some z) ∧
    (∀ conditions : List Condition, conditions ≠ [] →
      (∀ condition ∈ conditions,
        condition.operator ∈ Operator.negatable) →
      listHolds (conditions.map negated) .all record prior =
        !listHolds conditions .any record prior) ∧
    ∀ conditions others : List Condition,
      (∀ condition, condition ∈ conditions ↔ condition ∈ others) →
      ∀ mode, listHolds conditions mode record prior =
        listHolds others mode record prior :=
  ⟨operatorsAgree record prior,
    fun field low high => between_holds_iff field low high record prior,
    fun _ hsome hnegatable =>
      listHolds_negated hsome hnegatable record prior,
    fun _ _ hsame mode => listHolds_congr hsame mode record prior⟩

/-- A renewal whose notes are missing. -/
def renewal : Record :=
  .ofFields "Opportunity" "o-1"
    [("Amount", .int 12500), ("Name", .string "Acme Renewal"), ("Notes", .null)]

/-- What would speak against the renewal. -/
def objections : List Condition :=
  [notEquals "name" "ACME renewal", isNotNull "Notes",
    inList "Amount" ["100", "200"]]

/-- There are no objections, however often and in which order they are raised;
its name contains what it equals, and its amount is within bounds. -/
theorem operators_cohere_renewal :
    objections ≠ [] ∧
      (∀ condition ∈ objections,
        condition.operator ∈ Operator.negatable) ∧
      listHolds (objections.map negated) .all renewal none =
        !listHolds objections .any renewal none ∧
      (∀ condition, condition ∈ objections ↔
        condition ∈ (objections ++ objections).reverse) ∧
      listHolds objections .any renewal none =
        listHolds (objections ++ objections).reverse .any renewal none ∧
      renewal.text "Name" ≠ none ∧
      holds ⟨"Name", .equals, some "ACME renewal"⟩ renewal none = true ∧
      holds ⟨"Name", .contains, some "ACME renewal"⟩ renewal none = true ∧
      (between "Amount" "1e4" " 12500").holds renewal none = true := by
  obtain ⟨hagree, hbetween, hnegated, hcongr⟩ := operators_cohere renewal none
  have hname : renewal.text "Name" ≠ none := by decide
  have hequals :
      holds ⟨"Name", .equals, some "ACME renewal"⟩ renewal none = true := by
    decide +kernel
  have hstarts := ((hagree _ _).ofEquals hname (by decide) hequals).1
  have htwice : ∀ condition, condition ∈ objections ↔
      condition ∈ (objections ++ objections).reverse := by
    simp only [List.mem_reverse, List.mem_append, or_self, implies_true]
  refine ⟨by decide, by decide, hnegated _ (by decide) (by decide), htwice,
    hcongr _ _ htwice .any, hname, hequals,
    (hagree _ _).ofStartsWith hstarts, ?_⟩
  rw [hbetween]
  exact ⟨by decide +kernel, by decide +kernel, "12500", ⟨false, 12500, 0⟩,
    ⟨false, 10000, 0⟩, ⟨false, 12500, 0⟩, by decide +kernel, by decide +kernel,
    by decide +kernel, by decide +kernel⟩

example : listHolds objections .any renewal none = false := by decide +kernel

end Condition

end RecordRules
