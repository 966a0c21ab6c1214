import PageSync.Blocking.Action
import PageSync.Service.Connection
import PageSync.Service.Network
import PageSync.Service.Verdict

/-!
# Blocking/Exchange — one call, one request

A call sends one request, waits for its outcome, writes down what there is to be observed, and gives
the answer or the fault that the outcome is.
-/

namespace PageSync.Blocking

/-- A connection to a network. -/
structure Channel (σ : Type) where
  connection : Connection
  network : Network σ

namespace Channel

variable {σ : Type}

/-- The settings of a channel. -/
abbrev settings (ch : Channel σ) : Settings :=
  ch.connection.settings

/-- Send a request and wait for its outcome. -/
def exchange (ch : Channel σ) (q : Request) : Action σ Outcome :=
  fun w =>
    let (o, peer) := ch.network.exchange q w.peer
    (.ok o, { w with peer := peer, journal := w.journal.send q })

/-- **Call the service.** -/
def call (ch : Channel σ) (method path : String) (args : Fields) : Action σ Json := do
  let q ← .ofExcept (ch.connection.request method path args)
  let o ← ch.exchange q
  let c : Call := ⟨method, path⟩
  .note (o.observe ch.settings q c)
  .ofExcept (o.answer c)

end Channel

end PageSync.Blocking
