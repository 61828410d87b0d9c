import Mathlib.Data.Prod.Lex
import Mathlib.Data.Sum.Order
import RecordRules.Condition.Evaluate
import RecordRules.Proofs.DecimalValues
import RecordRules.Proofs.TimestampTexts

/-!
# The order of texts

A text that can be compared measures something: a number, or a point in time.
Numbers are not compared with points in time, so the order of texts is the
partial order of what they measure.
-/

namespace RecordRules

open Number

namespace Time.Instant

/-- The place of an instant in the order of instants. -/
def place (instant : Instant) : ℤ ×ₗ ℕ := toLex (instant.seconds, instant.nanos)

theorem compare_eq_cmp (a b : Instant) :
    a.compare b = cmp a.place b.place := by
  refine (Ordering.Compares.cmp_eq ?_).symm
  unfold compare
  split
  · rename_i hbefore
    exact Prod.Lex.toLex_lt_toLex.mpr (.inl hbefore)
  split
  · rename_i hafter
    exact Prod.Lex.toLex_lt_toLex.mpr (.inl hafter)
  have hseconds : a.seconds = b.seconds := by omega
  split
  · rename_i hbefore
    exact Prod.Lex.toLex_lt_toLex.mpr (.inr ⟨hseconds, hbefore⟩)
  split
  · rename_i hafter
    exact Prod.Lex.toLex_lt_toLex.mpr (.inr ⟨hseconds.symm, hafter⟩)
  have hnanos : a.nanos = b.nanos := by omega
  exact congrArg toLex (Prod.ext hseconds hnanos)

end Time.Instant

namespace Condition

open Time (Instant readTimestamp readTimestamp_of_decimal)

/-! ## What texts measure -/

/-- A number or a point in time; one of each are not comparable. -/
abbrev Measure := ℚ ⊕ (ℤ ×ₗ ℕ)

namespace Measure

/-- The order of two numbers or of two points in time. -/
def compare : Measure → Measure → Option Ordering
  | .inl x, .inl y => some (cmp x y)
  | .inr x, .inr y => some (cmp x y)
  | _, _ => none

theorem compare_eq_some_iff {x y : Measure} {o : Ordering} :
    compare x y = some o ↔ o.Compares x y := by
  have hcmp {α : Type} [LinearOrder α] (x y : α) :
      some (cmp x y) = some o ↔ o.Compares x y := by
    rw [Option.some.injEq]
    exact ⟨fun h => h ▸ cmp_compares x y, Ordering.Compares.cmp_eq⟩
  cases x with
  | inl x =>
      cases y with
      | inl y =>
          rw [compare, hcmp]
          cases o <;> simp [Ordering.Compares]
      | inr y => cases o <;> simp [compare, Ordering.Compares]
  | inr x =>
      cases y with
      | inl y => cases o <;> simp [compare, Ordering.Compares]
      | inr y =>
          rw [compare, hcmp]
          cases o <;> simp [Ordering.Compares]

end Measure

/-- What a text measures, if anything. -/
def measure? (s : String) : Option Measure :=
  match Decimal.read? s with
  | some d => some (.inl d.value)
  | none => (readTimestamp s).map fun instant => .inr instant.place

theorem measure?_of_decimal {s : String} {d : Decimal}
    (h : Decimal.read? s = some d) : measure? s = some (.inl d.value) := by
  rw [measure?, h]

/-- Texts are compared by what they measure. -/
theorem compareTexts_eq (a b : String) :
    compareTexts a b =
      (measure? a).bind fun x => (measure? b).bind fun y => x.compare y := by
  unfold compareTexts measure?
  cases ha : Decimal.read? a with
  | some d =>
      cases hb : Decimal.read? b with
      | some e => exact congrArg some (Decimal.compare_eq_cmp d e)
      | none =>
          -- a number is no point in time, so nothing is left to compare with
          rw [readTimestamp_of_decimal ha]
          cases readTimestamp b <;> rfl
  | none =>
      cases hb : Decimal.read? b with
      | some e =>
          rw [readTimestamp_of_decimal hb]
          cases readTimestamp a <;> rfl
      | none =>
          cases readTimestamp a with
          | none => rfl
          | some x =>
              cases readTimestamp b with
              | none => rfl
              | some y => exact congrArg some (Instant.compare_eq_cmp x y)

theorem compareTexts_eq_some_iff {a b : String} {o : Ordering} :
    compareTexts a b = some o ↔
      ∃ x y, measure? a = some x ∧ measure? b = some y ∧ o.Compares x y := by
  simp only [compareTexts_eq, Option.bind_eq_some_iff,
    Measure.compare_eq_some_iff]
  constructor
  · rintro ⟨x, hx, y, hy, hcompares⟩
    exact ⟨x, y, hx, hy, hcompares⟩
  · rintro ⟨x, y, hx, hy, hcompares⟩
    exact ⟨x, hx, y, hy, hcompares⟩

/-! ## Order -/

theorem compareTexts_swap (a b : String) :
    compareTexts b a = (compareTexts a b).map Ordering.swap := by
  refine Option.ext fun o => ?_
  rw [Option.map_eq_some_iff]
  constructor
  · intro h
    obtain ⟨y, x, hy, hx, hcompares⟩ := compareTexts_eq_some_iff.mp h
    exact ⟨o.swap, compareTexts_eq_some_iff.mpr
      ⟨x, y, hx, hy, hcompares.swap⟩, o.swap_swap⟩
  · rintro ⟨o, h, rfl⟩
    obtain ⟨x, y, hx, hy, hcompares⟩ := compareTexts_eq_some_iff.mp h
    exact compareTexts_eq_some_iff.mpr ⟨y, x, hy, hx, hcompares.swap⟩

/-- A text not after another that is not after a third is not after the third,
and before it when one of the two is before the next. -/
theorem compareTexts_trans
    {a b c : String} {first second : Ordering}
    (hab : compareTexts a b = some first) (hbc : compareTexts b c = some second)
    (hfirst : first ≠ .gt) (hsecond : second ≠ .gt) :
    ∃ whole, compareTexts a c = some whole ∧ whole ≠ .gt ∧
      (first = .lt ∨ second = .lt → whole = .lt) := by
  obtain ⟨x, y, hx, hy, hxy⟩ := compareTexts_eq_some_iff.mp hab
  obtain ⟨y', z, hy', hz, hyz⟩ := compareTexts_eq_some_iff.mp hbc
  obtain rfl : y = y' := Option.some.inj (hy.symm.trans hy')
  have hcompares {whole : Ordering} (h : whole.Compares x z) :
      compareTexts a c = some whole :=
    compareTexts_eq_some_iff.mpr ⟨x, z, hx, hz, h⟩
  cases first with
  | gt => exact absurd rfl hfirst
  | eq =>
      obtain rfl : x = y := hxy
      exact ⟨second, hcompares hyz, hsecond, fun h => h.resolve_left (by decide)⟩
  | lt =>
      have hxz : x < z := by
        cases second with
        | gt => exact absurd rfl hsecond
        | eq =>
            obtain rfl : y = z := hyz
            exact hxy
        | lt => exact lt_trans hxy hyz
      exact ⟨.lt, hcompares hxz, by decide, fun _ => rfl⟩

theorem compareTexts_int
    {m n : ℤ} (hm : Json.isIntegral m = true) (hn : Json.isIntegral n = true) :
    compareTexts (Number.intText m) (Number.intText n) =
      some (Ord.compare m n) := by
  obtain ⟨d, hd, hdm⟩ := Decimal.read?_intText (Decimal.natAbs_lt_bound hm)
  obtain ⟨e, he, hen⟩ := Decimal.read?_intText (Decimal.natAbs_lt_bound hn)
  have hcast : StrictMono (Int.cast : ℤ → ℚ) := Int.cast_strictMono
  rw [compareTexts_eq, measure?_of_decimal hd, measure?_of_decimal he,
    hdm, hen, ← cmp_eq_compare, ← hcast.cmp_map_eq]
  rfl

/-! ## Operators -/

/-- Exactly one of the two strict orders and equality, which is both weak orders
together, holds, or no operator of order does. -/
def OneOrderOrNone (holds : Operator → Bool) : Prop :=
  [holds .greaterThan, holds .lessThan,
      holds .greaterThanOrEqual && holds .lessThanOrEqual].count true = 1 ∨
    (holds .greaterThan = false ∧ holds .greaterThanOrEqual = false ∧
      holds .lessThan = false ∧ holds .lessThanOrEqual = false)

theorem holds_oneOrderOrNone
    (record : Record) (prior : Option Record) (field : String)
    (literal : Option String) :
    OneOrderOrNone fun operator =>
      (Condition.mk field operator literal).holds record prior := by
  simp only [OneOrderOrNone, holds]
  cases compare (record.text field) literal with
  | none => exact .inr ⟨rfl, rfl, rfl, rfl⟩
  | some o => cases o <;> exact .inl rfl

/-- The order of texts is coherent: no text is a decimal and a timestamp, the
order turns around with the texts, it is transitive, strictly so where one part
is strict, and on the texts of integers it is theirs.  So of a field and a
literal one order holds, or none. -/
theorem text_order_coherent :
    (∀ s, Decimal.read? s = none ∨ readTimestamp s = none) ∧
    (∀ a b o, compareTexts a b = some o ↔ compareTexts b a = some o.swap) ∧
    (∀ a b c first second,
      compareTexts a b = some first → compareTexts b c = some second →
      first ≠ .gt → second ≠ .gt →
      ∃ whole, compareTexts a c = some whole ∧ whole ≠ .gt ∧
        (first = .lt ∨ second = .lt → whole = .lt)) ∧
    (∀ m n a b, Json.isIntegral m = true → Json.isIntegral n = true →
      (Json.int m).text? = some a → (Json.int n).text? = some b →
      compareTexts a b = some (Ord.compare m n)) ∧
    ∀ record prior field literal,
      OneOrderOrNone fun operator =>
        (Condition.mk field operator literal).holds record prior := by
  refine ⟨fun s => ?_, fun a b o => ?_,
    fun a b c first second => compareTexts_trans,
    fun m n a b hm hn ha hb => ?_, holds_oneOrderOrNone⟩
  · cases hread : Decimal.read? s with
    | none => exact .inl rfl
    | some d => exact .inr (readTimestamp_of_decimal hread)
  · rw [compareTexts_swap a b, Option.map_eq_some_iff]
    constructor
    · exact fun h => ⟨o, h, rfl⟩
    · rintro ⟨other, h, hswap⟩
      rw [h, Ordering.swap_inj.mp hswap]
  · simp only [Json.text?, Json.print, Option.some.injEq] at ha hb
    rw [← ha, ← hb, compareTexts_int hm hn]

theorem text_order_coherent_ten :
    (compareTexts "9" "1e1" = some .lt ∧
      compareTexts "1e1" "10.0" = some .eq ∧
      ∃ whole, compareTexts "9" "10.0" = some whole ∧ whole ≠ .gt ∧
        (Ordering.lt = .lt ∨ Ordering.eq = .lt → whole = .lt)) ∧
    (Json.int (-9)).text? = some "-9" ∧ (Json.int 10).text? = some "10" ∧
    compareTexts "-9" "10" = some (Ord.compare (-9 : ℤ) 10) := by
  have hlt : compareTexts "9" "1e1" = some .lt := by decide
  have heq : compareTexts "1e1" "10.0" = some .eq := by decide
  have hminus : (Json.int (-9)).text? = some "-9" := by decide +kernel
  have hten : (Json.int 10).text? = some "10" := by decide +kernel
  obtain ⟨-, -, htrans, hint, -⟩ := text_order_coherent
  exact ⟨⟨hlt, heq, htrans _ _ _ _ _ hlt heq (by decide) (by decide)⟩,
    hminus, hten, hint _ _ _ _ (by decide) (by decide) hminus hten⟩

example : compareTexts "1_000" "1e3" = some .eq := by decide

example : compareTexts "2024-02-29" "2024-02-29T00:00:01Z" = some .lt := by decide

end Condition
end RecordRules
