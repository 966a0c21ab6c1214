import PageSync.Service.World

/-!
# Suspending/Task — operations that give way while they wait

A task goes in steps. A step changes the world, and what follows it depends on the world that the
step met; between two steps the task is suspended. `Task.run` takes the steps one after the other.
-/

namespace PageSync.Suspending

/-- An operation that is finished, or suspended before its next step. -/
inductive Task (σ α : Type) where
  | finished (result : Except Fault α)
  | suspended (act : World σ → World σ) (resume : World σ → Task σ α)

namespace Task

variable {σ α β : Type}

/-- Take all steps. -/
def run : Task σ α → World σ → Except Fault α × World σ
  | .finished result, w => (result, w)
  | .suspended act resume, w => (resume w).run (act w)

/-- One task after the other; a fault ends both. -/
def andThen : Task σ α → (α → Task σ β) → Task σ β
  | .finished (.ok x), f => f x
  | .finished (.error e), _ => .finished (.error e)
  | .suspended act resume, f => .suspended act fun w => (resume w).andThen f

instance : Monad (Task σ) where
  pure x := .finished (.ok x)
  bind := andThen

/-- A task that ends with a fault. -/
def fail (fault : Fault) : Task σ α :=
  .finished (.error fault)

/-- A value, or the fault that stands for it. -/
def ofExcept (x : Except Fault α) : Task σ α :=
  .finished x

/-- A task whose fault is handed over as a value. -/
def attempt : Task σ α → Task σ (Except Fault α)
  | .finished result => .finished (.ok result)
  | .suspended act resume => .suspended act fun w => (resume w).attempt

/-- A single step with a value. -/
def step (f : World σ → Except Fault α × World σ) : Task σ α :=
  .suspended (fun w => (f w).2) fun w => .finished (f w).1

/-- Write something into the journal. -/
def note (f : Journal → Journal) : Task σ Unit :=
  step fun w => (.ok (), w.note f)

/-- Compute a value and write into the journal on the way. -/
def noting (f : Journal → α × Journal) : Task σ α :=
  step fun w => (.ok (f w.journal).1, { w with journal := (f w.journal).2 })

/-- Look at the state of the peer. -/
def peek (f : σ → α) : Task σ α :=
  step fun w => (.ok (f w.peer), w)

@[simp] theorem run_pure (x : α) (w : World σ) : (pure x : Task σ α).run w = (.ok x, w) := rfl

@[simp] theorem run_fail (fault : Fault) (w : World σ) :
    (fail fault : Task σ α).run w = (.error fault, w) := rfl

@[simp] theorem run_ofExcept (x : Except Fault α) (w : World σ) :
    (ofExcept x : Task σ α).run w = (x, w) := rfl

@[simp] theorem run_step (f : World σ → Except Fault α × World σ) (w : World σ) :
    (step f).run w = f w := rfl

@[simp] theorem run_note (f : Journal → Journal) (w : World σ) :
    (note f : Task σ Unit).run w = (.ok (), w.note f) := rfl

@[simp] theorem run_bind (t : Task σ α) (f : α → Task σ β) (w : World σ) :
    (t >>= f).run w = (match t.run w with
      | (.ok x, w) => (f x).run w
      | (.error e, w) => (.error e, w)) := by
  change (t.andThen f).run w = _
  induction t generalizing w with
  | finished result => cases result <;> rfl
  | suspended act resume ih => exact ih w (act w)

@[simp] theorem run_attempt (t : Task σ α) (w : World σ) :
    t.attempt.run w = (.ok (t.run w).1, (t.run w).2) := by
  induction t generalizing w with
  | finished result => rfl
  | suspended act resume ih => exact ih w (act w)

end Task

end PageSync.Suspending
