import PageSync.Service.World

/-!
# Blocking/Action — operations that run to their end

An action takes the world as it is and leaves it changed, with a value or a fault. After a fault
nothing more of it is done, unless it was attempted.
-/

namespace PageSync.Blocking

/-- An operation on the world that gives a value or a fault. -/
def Action (σ α : Type) : Type :=
  World σ → Except Fault α × World σ

namespace Action

variable {σ α β : Type}

/-- Run an action. -/
def run (a : Action σ α) (w : World σ) : Except Fault α × World σ :=
  a w

/-- An action that does nothing and has a value. -/
def done (x : α) : Action σ α :=
  fun w => (.ok x, w)

/-- One action after the other; a fault ends both. -/
def andThen (a : Action σ α) (f : α → Action σ β) : Action σ β :=
  fun w =>
    match a w with
    | (.ok x, w) => f x w
    | (.error e, w) => (.error e, w)

instance : Monad (Action σ) where
  pure := done
  bind := andThen

/-- An action that ends with a fault. -/
def fail (fault : Fault) : Action σ α :=
  fun w => (.error fault, w)

/-- A value, or the fault that stands for it. -/
def ofExcept (x : Except Fault α) : Action σ α :=
  fun w => (x, w)

/-- An action whose fault is handed over as a value. -/
def attempt (a : Action σ α) : Action σ (Except Fault α) :=
  fun w => (.ok (a w).1, (a w).2)

/-- Write something into the journal. -/
def note (f : Journal → Journal) : Action σ Unit :=
  fun w => (.ok (), w.note f)

/-- Compute a value and write into the journal on the way. -/
def noting (f : Journal → α × Journal) : Action σ α :=
  fun w => (.ok (f w.journal).1, { w with journal := (f w.journal).2 })

/-- Look at the state of the peer. -/
def peek (f : σ → α) : Action σ α :=
  fun w => (.ok (f w.peer), w)

@[simp] theorem run_pure (x : α) (w : World σ) : (pure x : Action σ α).run w = (.ok x, w) := rfl

@[simp] theorem run_bind (a : Action σ α) (f : α → Action σ β) (w : World σ) :
    (a >>= f).run w = (match a.run w with
      | (.ok x, w) => (f x).run w
      | (.error e, w) => (.error e, w)) := rfl

/-- What follows a value goes on from the world that the value came with. -/
theorem run_bind_ok {a : Action σ α} {f : α → Action σ β} {w w' : World σ} {x : α}
    (h : a.run w = (.ok x, w')) : (a >>= f).run w = (f x).run w' := by
  rw [run_bind, h]

/-- Nothing follows a fault. -/
theorem run_bind_error {a : Action σ α} {f : α → Action σ β} {w w' : World σ} {e : Fault}
    (h : a.run w = (.error e, w')) : (a >>= f).run w = (.error e, w') := by
  rw [run_bind, h]

/-- Actions in a row can be grouped in any way. -/
theorem bind_assoc {γ : Type} (a : Action σ α) (f : α → Action σ β) (g : β → Action σ γ) :
    (a >>= f) >>= g = a >>= fun x => f x >>= g := by
  funext w
  change ((a >>= f) >>= g).run w = (a >>= fun x => f x >>= g).run w
  simp only [run_bind]
  cases a.run w with
  | mk r w => cases r <;> rfl

@[simp] theorem run_fail (fault : Fault) (w : World σ) :
    (fail fault : Action σ α).run w = (.error fault, w) := rfl

@[simp] theorem run_ofExcept (x : Except Fault α) (w : World σ) :
    (ofExcept x : Action σ α).run w = (x, w) := rfl

@[simp] theorem run_attempt (a : Action σ α) (w : World σ) :
    a.attempt.run w = (.ok (a.run w).1, (a.run w).2) := rfl

@[simp] theorem run_note (f : Journal → Journal) (w : World σ) :
    (note f : Action σ Unit).run w = (.ok (), w.note f) := rfl

end Action

end PageSync.Blocking
