/-!
# Computations that may break off

A computation works on a state and ends with a value, or breaks off in the middle.  What it did to
the state before it broke off remains, so that whoever catches the break can go on from there.
-/

namespace RecordRules

/-- How a computation ended. -/
inductive Ending (α : Type) where
  | value (a : α)
  | panic
  deriving DecidableEq, Repr

/-- Makes something of the value, if there is one. -/
def Ending.map (f : α → β) : Ending α → Ending β
  | .value a => .value (f a)
  | .panic => .panic

/-- A computation on a state that may break off. -/
def Run (σ α : Type) : Type := σ → Ending α × σ

namespace Run

variable {σ τ α β γ : Type}

/-- Ends with a value at once. -/
protected def pure (a : α) : Run σ α := fun s => (.value a, s)

/-- Goes on with what the next computation makes of the value; a break is passed on. -/
protected def bind (x : Run σ α) (next : α → Run σ β) : Run σ β := fun s =>
  match x s with
  | (.value a, s) => next a s
  | (.panic, s) => (.panic, s)

instance : Monad (Run σ) where
  pure := Run.pure
  bind := Run.bind

def gets (view : σ → α) : Run σ α := fun s => (.value (view s), s)

def modify (change : σ → σ) : Run σ Unit := fun s => (.value (), change s)

/-- Changes the state and gives a value. -/
def update (change : σ → α × σ) : Run σ α := fun s =>
  let (a, s) := change s
  (.value a, s)

def breakOff : Run σ α := fun s => (.panic, s)

/-- Catches a break: no value then. -/
def guarded (x : Run σ α) : Run σ (Option α) := fun s =>
  match x s with
  | (.value a, s) => (.value (some a), s)
  | (.panic, s) => (.value none, s)

/-- Runs on a part of a larger state. -/
def within (view : τ → σ) (put : σ → τ → τ) (x : Run σ α) : Run τ α := fun t =>
  let (ending, s) := x (view t)
  (ending, put s t)

/-- Mapping the identity changes nothing. -/
protected theorem id_map (x : Run σ α) : id <$> x = x := by
  funext s
  change (match x s with
    | (.value a, s) => (Ending.value (id a), s)
    | (.panic, s) => (.panic, s)) = x s
  rcases x s with ⟨_ | _, _⟩ <;> rfl

protected theorem bind_assoc (x : Run σ α) (f : α → Run σ β) (g : β → Run σ γ) :
    x >>= f >>= g = x >>= fun a => f a >>= g := by
  funext s
  simp only [Bind.bind, Run.bind]
  rcases x s with ⟨_ | _, _⟩ <;> rfl

instance : LawfulMonad (Run σ) :=
  LawfulMonad.mk' (Run σ) Run.id_map (fun _ _ => rfl) Run.bind_assoc

end Run

end RecordRules
