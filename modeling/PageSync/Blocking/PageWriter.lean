import PageSync.Blocking.Delivery

/-!
# Blocking/PageWriter — creating pages and replacing their content

A new page is created without content, which is delivered afterwards. To replace content, all
children are deleted, the new blocks are delivered, and only then the properties are written: so
whatever fails before leaves them as they were.
-/

namespace PageSync.Blocking

/-- What writes pages: what can be done with pages and blocks, and the settings. -/
structure PageWriter (σ : Type) where
  config : Config
  pages : PagesApi (Action σ)
  blocks : BlocksApi (Action σ)

namespace PageWriter

variable {σ : Type}

/-- Create a page and deliver its content. -/
def create (w : PageWriter σ) (parent properties : Json) (blocks : List Json) :
    Action σ (Json × Receipt) := do
  let page ← w.pages.create parent properties
  let id ← .ofExcept (page.entry "id")
  let receipt ← deliver w.config w.blocks id blocks
  return (page, receipt)

/-- Delete blocks, one after the other, and count them. -/
def deleteAll (w : PageWriter σ) : Nat → List Json → Action σ Nat
  | count, [] => pure count
  | count, id :: rest => do
    let _ ← w.blocks.delete id
    deleteAll w (count + 1) rest

/-- **Replace the content of a page**, and write its properties last, when there are some. The
number of deleted blocks and the receipt are the result. -/
def replace (w : PageWriter σ) (page : Json) (blocks : List Json) (properties : Json) :
    Action σ (Nat × Receipt) := do
  let children ← .ofExcept (← w.blocks.children page).elements
  let deleted ← w.deleteAll 0 (← .ofExcept (Json.childIds children))
  .note (Receipt.measureDeleted w.config.settings deleted)
  let receipt ← deliver w.config w.blocks page blocks
  if properties.truthy then
    let _ ← w.pages.update page properties
  return (deleted, receipt)

end PageWriter

end PageSync.Blocking
