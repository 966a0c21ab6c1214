import PageSync.Journal

/-!
# Service/World — what an operation acts on

The state of what the program talks to, and the journal of the run.
-/

namespace PageSync

/-- The state of the peer and the journal of the run. -/
structure World (σ : Type) where
  peer : σ
  journal : Journal
  /-- Whether the connection to the peer has been given up. -/
  closed : Bool

namespace World

/-- A run that begins with a peer in a state. -/
def start {σ : Type} (peer : σ) : World σ :=
  ⟨peer, .empty, false⟩

/-- Write something into the journal. -/
def note {σ : Type} (w : World σ) (f : Journal → Journal) : World σ :=
  { w with journal := f w.journal }

@[simp] theorem peer_note {σ : Type} (w : World σ) (f : Journal → Journal) :
    (w.note f).peer = w.peer := rfl

@[simp] theorem journal_note {σ : Type} (w : World σ) (f : Journal → Journal) :
    (w.note f).journal = f w.journal := rfl

/-- Give up the connection. -/
def close {σ : Type} (w : World σ) : World σ :=
  { w with closed := true }

end World

end PageSync
