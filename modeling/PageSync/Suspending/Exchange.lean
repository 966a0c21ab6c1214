import PageSync.Service.Connection
import PageSync.Service.Network
import PageSync.Service.Verdict
import PageSync.Suspending.Task

/-!
# Suspending/Exchange — one call, one request, without blocking

A call gives way while its request is on its way, and is resumed with the outcome.
-/

namespace PageSync.Suspending

/-- A connection to a network. -/
structure Channel (σ : Type) where
  connection : Connection
  network : Network σ

namespace Channel

variable {σ : Type}

/-- The settings of a channel. -/
abbrev settings (ch : Channel σ) : Settings :=
  ch.connection.settings

/-- Give way until the outcome of a request is there. -/
def await (ch : Channel σ) (q : Request) : Task σ Outcome :=
  .suspended
    (fun w => { w with
      peer := (ch.network.exchange q w.peer).2
      journal := w.journal.send q })
    fun w => .finished (.ok (ch.network.exchange q w.peer).1)

/-- **Call the service.** -/
def call (ch : Channel σ) (method path : String) (args : Fields) : Task σ Json :=
  match ch.connection.request method path args with
  | .error fault => .fail fault
  | .ok q => do
    let o ← ch.await q
    let c : Call := ⟨method, path⟩
    .note (o.observe ch.settings q c)
    .ofExcept (o.answer c)

end Channel

end PageSync.Suspending
