import PageSync.Service.Paging

/-!
# Service/Network — what answers the requests

A network answers each request from its state. It does not announce pages for ever: each
announcement brings it nearer to its horizon. `Network.scripted` plays a list of outcomes and then
answers by a fallback.
-/

namespace PageSync

/-- What answers requests, from a state. -/
structure Network (σ : Type) where
  exchange : Request → σ → Outcome × σ
  /-- A bound on the number of pages that can still be announced. -/
  horizon : σ → Nat
  nearer : ∀ q s, (exchange q s).1.announcesMore = true → horizon (exchange q s).2 < horizon s

namespace Network

/-- An outcome that announces no page: an announcement is withheld. -/
def ending (o : Outcome) : Outcome :=
  if o.announcesMore then .response ⟨200, [], ""⟩ else o

theorem announcesMore_ending (o : Outcome) : (ending o).announcesMore = false := by
  unfold ending
  split
  · rfl
  · next h => simpa using h

/-- The state of a scripted network: the outcomes that are left, and the state of its fallback. -/
structure Script (σ : Type) where
  outcomes : List (Option Outcome)
  rest : σ

/-- The answer of a scripted network: the next outcome of the script, or that of the fallback where
the script has none. -/
def playScript {σ : Type} (fallback : Request → σ → Outcome × σ) (q : Request) (s : Script σ) :
    Outcome × Script σ :=
  match s.outcomes with
  | some o :: outcomes => (o, { s with outcomes := outcomes })
  | none :: outcomes =>
    let (o, rest) := fallback q s.rest
    (ending o, ⟨outcomes, rest⟩)
  | [] =>
    let (o, rest) := fallback q s.rest
    (ending o, ⟨[], rest⟩)

/-- **A network that plays a script.** -/
def scripted {σ : Type} (fallback : Request → σ → Outcome × σ) : Network (Script σ) where
  exchange := playScript fallback
  horizon s := s.outcomes.length
  nearer q s h := by
    cases ho : s.outcomes with
    | nil => simp [playScript, ho, announcesMore_ending] at h
    | cons o outcomes =>
      cases o with
      | none => simp [playScript, ho, announcesMore_ending] at h
      | some o => simp [playScript, ho]

end Network

end PageSync
