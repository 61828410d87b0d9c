import RecordRules.Time.Instant

/-!
# The order of instants

Instants are ordered by seconds and then by nanoseconds, leap seconds included,
and no amount of time that is not negative leads back in that order.
-/

namespace RecordRules.Time.Instant

theorem notAfter_iff (a b : Instant) :
    a.notAfter b = true ↔
      a.seconds < b.seconds ∨ (a.seconds = b.seconds ∧ a.nanos ≤ b.nanos) := by
  simp [notAfter]

theorem notAfter_refl (a : Instant) : a.notAfter a = true := by
  simp [notAfter]

theorem notAfter_trans
    {a b c : Instant} (hab : a.notAfter b = true) (hbc : b.notAfter c = true) :
    a.notAfter c = true := by
  rw [notAfter_iff] at hab hbc ⊢
  omega

theorem notAfter_total (a b : Instant) :
    a.notAfter b = true ∨ b.notAfter a = true := by
  rw [notAfter_iff, notAfter_iff]
  omega

/-- Carrying no fewer nanoseconds, or a whole second, does not lead back. -/
theorem notAfter_carry
    (a : Instant) {nanos : Int} (hnanos : 0 ≤ nanos)
    (h : (a.nanos : Int) ≤ nanos ∨ (nanosPerSecond : Int) ≤ nanos) :
    a.notAfter (carry a.seconds nanos) = true := by
  rw [notAfter_iff]
  unfold carry
  unfold nanosPerSecond at h ⊢
  dsimp only
  omega

/-- No amount of time that is not negative leads back, in a leap second or
not. -/
theorem notAfter_of_addNanos
    {a b : Instant} {amount : Int} (hamount : 0 ≤ amount)
    (h : a.addNanos amount = some b) :
    a.notAfter b = true := by
  unfold addNanos at h
  dsimp only at h
  rw [Option.ite_none_right_eq_some, Option.some.injEq] at h
  obtain ⟨-, rfl⟩ := h
  by_cases hleap : a.nanos < nanosPerSecond
  · rw [if_pos hleap]
    exact notAfter_carry a (by omega) (by omega)
  · rw [if_neg hleap]
    split
    · rename_i hbeyond
      exact notAfter_carry a (by omega) (by omega)
    · have hforward : ¬ amount ≤ -(nanosPerSecond : Int) := by
        unfold nanosPerSecond
        omega
      rw [if_neg hforward, notAfter_iff]
      dsimp only
      omega

/-- A positive amount of time leads to a later instant. -/
theorem later_of_addNanos
    {a b : Instant} {amount : Int} (hamount : 0 < amount)
    (h : a.addNanos amount = some b) :
    b.notAfter a = false := by
  have hlater :
      a.seconds < b.seconds ∨ (a.seconds = b.seconds ∧ a.nanos < b.nanos) := by
    unfold addNanos at h
    dsimp only at h
    rw [Option.ite_none_right_eq_some, Option.some.injEq] at h
    obtain ⟨-, rfl⟩ := h
    unfold carry nanosPerSecond
    split
    · dsimp only
      omega
    split
    · dsimp only
      omega
    rw [if_neg (by omega)]
    dsimp only
    omega
  rw [← Bool.not_eq_true, notAfter_iff]
  omega

end RecordRules.Time.Instant
