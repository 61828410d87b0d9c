import Mathlib.Logic.Relation
import RecordRules.Host.Run

/-!
# Laws of computations that may break off

How the parts of a computation act on the state, how a computation that ended
with a value is taken apart again, which states it can get to by single steps,
and when it cannot tell states apart.
-/

namespace RecordRules

namespace Run

variable {σ τ α β : Type}

/-! ## How parts of a computation act -/

@[simp] theorem pure_apply (a : α) (s : σ) :
    (pure a : Run σ α) s = (.value a, s) := rfl

theorem update_apply (change : σ → α × σ) (s : σ) :
    update change s = (.value (change s).1, (change s).2) := rfl

@[simp] theorem gets_bind (view : σ → α) (next : α → Run σ β) (s : σ) :
    (gets view >>= next) s = next (view s) s := rfl

@[simp] theorem modify_bind (change : σ → σ) (next : Unit → Run σ β) (s : σ) :
    (modify change >>= next) s = next () (change s) := rfl

@[simp] theorem update_bind (change : σ → α × σ) (next : α → Run σ β) (s : σ) :
    (update change >>= next) s = next (change s).1 (change s).2 := rfl

theorem bind_of_value
    {x : Run σ α} {s t : σ} {a : α} (hx : x s = (.value a, t))
    (next : α → Run σ β) :
    (x >>= next) s = next a t := by
  simp [Bind.bind, Run.bind, hx]

theorem bind_of_panic
    {x : Run σ α} {s t : σ} (hx : x s = (.panic, t))
    (next : α → Run σ β) :
    (x >>= next) s = (.panic, t) := by
  simp [Bind.bind, Run.bind, hx]

theorem bind_congr
    {x y : Run σ α} {s : σ} (h : x s = y s) (next : α → Run σ β) :
    (x >>= next) s = (y >>= next) s := by
  simp only [Bind.bind, Run.bind, h]

/-- A sequence that ended with a value did so through a value of its first
part. -/
theorem bind_eq_value_iff
    {x : Run σ α} {next : α → Run σ β} {s u : σ} {b : β} :
    (x >>= next) s = (.value b, u) ↔
      ∃ a t, x s = (.value a, t) ∧ next a t = (.value b, u) := by
  constructor
  · intro h
    rcases hx : x s with ⟨_ | _, t⟩
    · rename_i a
      rw [bind_of_value hx] at h
      exact ⟨a, t, rfl, h⟩
    · rw [bind_of_panic hx] at h
      simp at h
  · rintro ⟨a, t, hx, hnext⟩
    rw [bind_of_value hx, hnext]

theorem guarded_of_value
    {x : Run σ α} {s t : σ} {a : α} (hx : x s = (.value a, t)) :
    x.guarded s = (.value (some a), t) := by
  simp [guarded, hx]

theorem guarded_of_panic
    {x : Run σ α} {s t : σ} (hx : x s = (.panic, t)) :
    x.guarded s = (.value none, t) := by
  simp [guarded, hx]

theorem guarded_state (x : Run σ α) (s : σ) :
    (x.guarded s).2 = (x s).2 := by
  rcases hx : x s with ⟨_ | _, t⟩
  · rw [guarded_of_value hx]
  · rw [guarded_of_panic hx]

@[simp] theorem within_apply
    (view : τ → σ) (put : σ → τ → τ) (x : Run σ α) (t : τ) :
    x.within view put t = ((x (view t)).1, put (x (view t)).2 t) := rfl

/-- A property of the state where a sequence ends follows from one of the state
where its first part ends. -/
theorem bind_state_of
    {P Q : σ → Prop} {x : Run σ α} {next : α → Run σ β} {s : σ}
    (hx : P (x s).2) (hstop : ∀ t, P t → Q t)
    (hnext : ∀ a t, x s = (.value a, t) → P t → Q (next a t).2) :
    Q ((x >>= next) s).2 := by
  rcases hs : x s with ⟨a | _, t⟩
  · rw [hs] at hx
    rw [bind_of_value hs]
    exact hnext a t hs hx
  · rw [hs] at hx
    rw [bind_of_panic hs]
    exact hstop t hx

/-- A property of the state that each part of a sequence keeps holds where the
sequence ends. -/
theorem bind_state
    {P : σ → Prop} {x : Run σ α} {next : α → Run σ β} {s : σ}
    (hx : P (x s).2)
    (hnext : ∀ a t, x s = (.value a, t) → P t → P (next a t).2) :
    P ((x >>= next) s).2 :=
  bind_state_of hx (fun _ h => h) hnext

theorem bind_pure_state (x : Run σ α) (f : α → β) (s : σ) :
    ((x >>= fun a => pure (f a)) s).2 = (x s).2 := by
  rcases hs : x s with ⟨a | _, t⟩
  · rw [bind_of_value hs]
    rfl
  · rw [bind_of_panic hs]

/-! ## What a computation ends with -/

/-- Every value that the computation can end with has the property. -/
def Yields (P : α → Prop) (x : Run σ α) : Prop :=
  ∀ s a t, x s = (.value a, t) → P a

theorem Yields.pure {P : α → Prop} {a : α} (ha : P a) :
    Yields P (pure a : Run σ α) := by
  intro s b t h
  obtain ⟨rfl, -⟩ : a = b ∧ s = t := by simpa using h
  exact ha

theorem Yields.breakOff {P : α → Prop} :
    Yields P (breakOff : Run σ α) := by
  intro s a t h
  simp [Run.breakOff] at h

theorem Yields.bind
    {P : β → Prop} {x : Run σ α} {next : α → Run σ β}
    (hnext : ∀ a, Yields P (next a)) :
    Yields P (x >>= next) := by
  intro s b u h
  obtain ⟨a, t, -, hlast⟩ := bind_eq_value_iff.mp h
  exact hnext a t b u hlast

theorem Yields.bind_of
    {P : α → Prop} {Q : β → Prop} {x : Run σ α} {next : α → Run σ β}
    (hx : Yields P x) (hnext : ∀ a, P a → Yields Q (next a)) :
    Yields Q (x >>= next) := by
  intro s b u h
  obtain ⟨a, t, hfirst, hlast⟩ := bind_eq_value_iff.mp h
  exact hnext a (hx s a t hfirst) t b u hlast

theorem Yields.guarded
    {P : α → Prop} {x : Run σ α} (hx : Yields P x) :
    Yields (fun caught => ∀ a, caught = some a → P a) x.guarded := by
  intro s caught t h a hcaught
  subst hcaught
  rcases hs : x s with ⟨_ | _, middle⟩
  · rw [guarded_of_value hs] at h
    obtain ⟨rfl, -⟩ : _ = a ∧ middle = t := by simpa using h
    exact hx s _ middle hs
  · rw [guarded_of_panic hs] at h
    simp at h

/-- From the state, the computation ends with a value. -/
def Ends (x : Run σ α) (s : σ) : Prop := ∃ a t, x s = (.value a, t)

theorem Ends.bind
    {x : Run σ α} {next : α → Run σ β} {s : σ} (hx : Ends x s)
    (hnext : ∀ a t, x s = (.value a, t) → Ends (next a) t) :
    Ends (x >>= next) s := by
  obtain ⟨a, t, hfirst⟩ := hx
  obtain ⟨b, u, hlast⟩ := hnext a t hfirst
  exact ⟨b, u, (bind_of_value hfirst next).trans hlast⟩

theorem Ends.guarded (x : Run σ α) (s : σ) : Ends x.guarded s := by
  rcases hs : x s with ⟨a | _, t⟩
  · exact ⟨some a, t, guarded_of_value hs⟩
  · exact ⟨none, t, guarded_of_panic hs⟩

/-! ## Where a computation can get -/

/-- Wherever the computation begins, it ends where single steps lead. -/
def Reaches (step : σ → σ → Prop) (x : Run σ α) : Prop :=
  ∀ s, Relation.ReflTransGen step s (x s).2

variable {step : σ → σ → Prop}

theorem Reaches.pure (a : α) :
    Reaches step (pure a : Run σ α) :=
  fun _ => .refl

theorem Reaches.of_step
    {x : Run σ α} (hx : ∀ s, step s (x s).2) :
    Reaches step x :=
  fun s => .single (hx s)

theorem Reaches.gets (view : σ → α) :
    Reaches step (gets view) :=
  fun _ => .refl

theorem Reaches.bind
    {x : Run σ α} {next : α → Run σ β}
    (hx : Reaches step x) (hnext : ∀ a, Reaches step (next a)) :
    Reaches step (x >>= next) := by
  intro s
  have hfirst := hx s
  rcases hs : x s with ⟨_ | _, t⟩
  · rename_i a
    rw [hs] at hfirst
    rw [bind_of_value hs]
    exact hfirst.trans (hnext a t)
  · rw [hs] at hfirst
    rw [bind_of_panic hs]
    exact hfirst

theorem Reaches.guarded
    {x : Run σ α} (hx : Reaches step x) :
    Reaches step x.guarded := by
  intro s
  rw [guarded_state]
  exact hx s

/-! ## One item after another -/

/-- The work is done on each item in turn, and ends with the value beside it. -/
def InTurn (work : α → Run σ β) : List (α × β) → σ → σ → Prop
  | [], s, t => t = s
  | (a, b) :: rest, s, u =>
    ∃ t, work a s = (.value b, t) ∧ InTurn work rest t u

theorem InTurn.split
    {work : α → Run σ β} {items : List (α × β)} {item : α × β}
    {s u : σ} (h : InTurn work items s u) (hmem : item ∈ items) :
    ∃ before after t v,
      items = before ++ item :: after ∧ InTurn work before s t ∧
        work item.1 t = (.value item.2, v) ∧ InTurn work after v u := by
  induction items generalizing s with
  | nil => simp at hmem
  | cons first rest ih =>
      obtain ⟨middle, hwork, hrest⟩ := h
      rcases List.mem_cons.mp hmem with rfl | hmem
      · exact ⟨[], rest, s, middle, rfl, rfl, hwork, hrest⟩
      · obtain ⟨before, after, t, v, rfl, hbefore, hitem, hafter⟩ :=
          ih hrest hmem
        exact ⟨first :: before, after, t, v, rfl, ⟨middle, hwork, hbefore⟩,
          hitem, hafter⟩

/-! ## Two runs of one computation -/

variable {alike : σ → σ → Prop}

/-- From related states, the computation ends in the same way, in related
states. -/
def Agrees (alike : σ → σ → Prop) (x : Run σ α) : Prop :=
  ∀ s t, alike s t → (x t).1 = (x s).1 ∧ alike (x s).2 (x t).2

namespace Agrees

theorem pure (a : α) : Agrees alike (pure a : Run σ α) :=
  fun _ _ h => ⟨rfl, h⟩

theorem bind
    {x : Run σ α} {next : α → Run σ β} (hx : Agrees alike x)
    (hnext : ∀ a, Agrees alike (next a)) :
    Agrees alike (x >>= next) := by
  intro s t h
  obtain ⟨hending, hlater⟩ := hx s t h
  rcases hs : x s with ⟨a | _, later⟩
  · rw [hs] at hending hlater
    have ht : x t = (.value a, (x t).2) := Prod.ext hending rfl
    rw [Run.bind_of_value hs, Run.bind_of_value ht]
    exact hnext a later _ hlater
  · rw [hs] at hending hlater
    have ht : x t = (.panic, (x t).2) := Prod.ext hending rfl
    rw [Run.bind_of_panic hs, Run.bind_of_panic ht]
    exact ⟨rfl, hlater⟩

theorem guarded {x : Run σ α} (hx : Agrees alike x) :
    Agrees alike x.guarded := by
  intro s t h
  obtain ⟨hending, hlater⟩ := hx s t h
  rcases hs : x s with ⟨a | _, later⟩
  · rw [hs] at hending hlater
    have ht : x t = (.value a, (x t).2) := Prod.ext hending rfl
    rw [Run.guarded_of_value hs, Run.guarded_of_value ht]
    exact ⟨rfl, hlater⟩
  · rw [hs] at hending hlater
    have ht : x t = (.panic, (x t).2) := Prod.ext hending rfl
    rw [Run.guarded_of_panic hs, Run.guarded_of_panic ht]
    exact ⟨rfl, hlater⟩

theorem gets
    {view : σ → α} (hview : ∀ s t, alike s t → view t = view s) :
    Agrees alike (gets view) :=
  fun s t h => ⟨congrArg Ending.value (hview s t h), h⟩

theorem modify
    {change : σ → σ}
    (hchange : ∀ s t, alike s t → alike (change s) (change t)) :
    Agrees alike (modify change) :=
  fun s t h => ⟨rfl, hchange s t h⟩

end Agrees

/-! ## Two computations side by side -/

/-- Both ended with related values, or both broke off, in related states. -/
inductive Matched {γ : Type} (alike : σ → τ → Prop) (same : α → γ → Prop) :
    Ending α × σ → Ending γ × τ → Prop
  | value {a : α} {c : γ} {s : σ} {t : τ} :
      same a c → alike s t → Matched alike same (.value a, s) (.value c, t)
  | panic {s : σ} {t : τ} :
      alike s t → Matched alike same (.panic, s) (.panic, t)

theorem Matched.mono
    {γ : Type} {alike other : σ → τ → Prop} {same : α → γ → Prop}
    {x : Ending α × σ} {y : Ending γ × τ} (h : Matched alike same x y)
    (hstates : other x.2 y.2) : Matched other same x y := by
  cases h with
  | value hsame _ => exact .value hsame hstates
  | panic _ => exact .panic hstates

/-- From related states, the computations end in the same way, with related
values and in related states. -/
def Matches {γ : Type} (alike : σ → τ → Prop) (same : α → γ → Prop)
    (x : Run σ α) (y : Run τ γ) : Prop :=
  ∀ s t, alike s t → Matched alike same (x s) (y t)

namespace Matches

variable {γ δ : Type} {alike : σ → τ → Prop} {same : α → γ → Prop}

theorem pure {a : α} {c : γ} (h : same a c) :
    Matches alike same (pure a : Run σ α) (pure c : Run τ γ) :=
  fun _ _ hst => .value h hst

theorem bind
    {other : β → δ → Prop} {x : Run σ α} {y : Run τ γ}
    {next : α → Run σ β} {nextOther : γ → Run τ δ} (hx : Matches alike same x y)
    (hnext : ∀ a c, same a c → Matches alike other (next a) (nextOther c)) :
    Matches alike other (x >>= next) (y >>= nextOther) := by
  intro s t hst
  have hfirst := hx s t hst
  rcases hs : x s with ⟨endingX, sLater⟩
  rcases ht : y t with ⟨endingY, tLater⟩
  rw [hs, ht] at hfirst
  cases hfirst with
  | value hsame halike =>
      rw [Run.bind_of_value hs, Run.bind_of_value ht]
      exact hnext _ _ hsame _ _ halike
  | panic halike =>
      rw [Run.bind_of_panic hs, Run.bind_of_panic ht]
      exact .panic halike

theorem guarded
    {x : Run σ α} {y : Run τ γ} (hx : Matches alike same x y) :
    Matches alike (Option.Rel same) x.guarded y.guarded := by
  intro s t hst
  have hfirst := hx s t hst
  rcases hs : x s with ⟨endingX, sLater⟩
  rcases ht : y t with ⟨endingY, tLater⟩
  rw [hs, ht] at hfirst
  cases hfirst with
  | value hsame halike =>
      rw [Run.guarded_of_value hs, Run.guarded_of_value ht]
      exact .value (.some hsame) halike
  | panic halike =>
      rw [Run.guarded_of_panic hs, Run.guarded_of_panic ht]
      exact .value .none halike

theorem gets
    {view : σ → α} {viewOther : τ → γ}
    (hview : ∀ s t, alike s t → same (view s) (viewOther t)) :
    Matches alike same (gets view) (gets viewOther) :=
  fun s t hst => .value (hview s t hst) hst

theorem update
    {change : σ → α × σ} {changeOther : τ → γ × τ}
    (hchange : ∀ s t, alike s t →
      same (change s).1 (changeOther t).1 ∧
        alike (change s).2 (changeOther t).2) :
    Matches alike same (update change) (update changeOther) :=
  fun s t hst => .value (hchange s t hst).1 (hchange s t hst).2

theorem modify
    {change : σ → σ} {changeOther : τ → τ}
    (hchange : ∀ s t, alike s t → alike (change s) (changeOther t)) :
    Matches alike Eq (modify change) (modify changeOther) :=
  fun s t hst => .value rfl (hchange s t hst)

end Matches

end Run

end RecordRules
