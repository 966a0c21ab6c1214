import PageSync.Blocking.PageWriter

/-!
# Proofs/Page/Stages — replacing a page in two stages

First the content of the page is renewed: what is listed is deleted, and the blocks are delivered.
Then the properties are written, when there are some.
-/

namespace PageSync.Blocking.PageWriter

variable {σ : Type}

/-- Delete blocks and deliver others to a page. -/
def turnOver (w : PageWriter σ) (page : Json) (blocks ids : List Json) :
    Action σ (Nat × Receipt) := do
  let deleted ← w.deleteAll 0 ids
  .note (Receipt.measureDeleted w.config.settings deleted)
  let receipt ← deliver w.config w.blocks page blocks
  return (deleted, receipt)

/-- Delete the children of a page and deliver blocks in their place. -/
def renew (w : PageWriter σ) (page : Json) (blocks : List Json) : Action σ (Nat × Receipt) := do
  let children ← .ofExcept (← w.blocks.children page).elements
  w.turnOver page blocks (← .ofExcept (Json.childIds children))

/-- Write properties, when there are some. -/
def mark (w : PageWriter σ) (page properties : Json) : Action σ Unit := do
  if properties.truthy then
    let _ ← w.pages.update page properties

/-- **To replace content is to renew it and to write the properties afterwards.** -/
theorem replace_eq (w : PageWriter σ) (page : Json) (blocks : List Json) (properties : Json) :
    w.replace page blocks properties = do
      let done ← w.renew page blocks
      w.mark page properties
      return done := by
  rw [replace, mark]
  simp only [renew, turnOver]
  split
  · simp only [Action.bind_assoc]
    rfl
  · simp only [Action.bind_assoc]
    rfl

end PageSync.Blocking.PageWriter
