import PageSync.Blocking.Pager
import PageSync.Page.Property
import PageSync.Service.Endpoint

/-!
# Blocking/Endpoints — blocks, pages and databases over a channel
-/

namespace PageSync.Blocking.Channel

variable {σ : Type}

open Endpoint

/-- All children of a block or page. -/
def children (ch : Channel σ) (id : Json) : Action σ (List Json) :=
  (Pager.start "GET" (childrenPath id) []).toList ch

/-- Add children to a block or page. -/
def appendChildren (ch : Channel σ) (id : Json) (blocks : List Json) : Action σ Json :=
  ch.call "PATCH" (childrenPath id) (withBody (appendBody blocks))

/-- Delete a block. -/
def deleteBlock (ch : Channel σ) (id : Json) : Action σ Json :=
  ch.call "DELETE" (blockPath id) []

/-- Create a page. -/
def createPage (ch : Channel σ) (parent properties : Json) (children : Option Json) :
    Action σ Json :=
  ch.call "POST" pagesPath (withBody (createBody parent properties children))

/-- Update the properties of a page. -/
def updatePage (ch : Channel σ) (id properties : Json) : Action σ Json :=
  ch.call "PATCH" (pagePath id) (withBody (updateBody properties))

/-- **The first page of a database whose text property equals a key**, if there is one. -/
def queryByKey (ch : Channel σ) (database : Json) (property key : String) :
    Action σ (Option Json) := do
  let found ← (Pager.start "POST" (queryPath database)
    (withBody (Property.keyFilter property key))).next? ch
  return (found.map (·.1)).filter (· ≠ .null)

/-- What a channel can do with blocks. -/
def blocksApi (ch : Channel σ) : BlocksApi (Action σ) where
  children id := do return .arr (← ch.children id)
  append := ch.appendChildren
  delete := ch.deleteBlock

/-- What a channel can do with pages. -/
def pagesApi (ch : Channel σ) : PagesApi (Action σ) where
  create parent properties := ch.createPage parent properties none
  update := ch.updatePage

end PageSync.Blocking.Channel
