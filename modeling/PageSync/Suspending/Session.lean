import PageSync.Suspending.Endpoints
import PageSync.Suspending.PageWriter
import PageSync.Conversion
import PageSync.Page.Result

/-!
# Suspending/Session — the operations of a sync run without blocking

A run finds the page that was written from a source, creates a page from a document, or replaces the
content of a page by a document. A replacement writes the time of the source last, a creation with
the page.
-/

namespace PageSync.Suspending.Channel

variable {σ : Type}

/-- What writes pages over a channel. -/
def writer (ch : Channel σ) : PageWriter σ :=
  ⟨ch.connection.config, ch.pagesApi, ch.blocksApi⟩

/-- Convert a document. -/
def convert (ch : Channel σ) (markdown : String) : Task σ Conversion :=
  .noting (Conversion.run ch.settings markdown)

/-- **The page that was written from a source**, if there is one. -/
def findPage (ch : Channel σ) (database : Json) (key : String) : Task σ (Option Json) := do
  let page ← ch.queryByKey database ch.settings.keyProperty key
  .note (logFound database page)
  return page

/-- **Create a page from a document.** -/
def createPageFrom (ch : Channel σ) (database : Json) (title markdown : String)
    (key modified : Option String) (extra : Fields) : Task σ Created := do
  let conversion ← ch.convert markdown
  let (page, receipt) ← ch.writer.create (.obj [("database_id", database)])
    (.obj (ch.settings.pageProperties title key modified extra))
    (conversion.blocks.map Block.toJson)
  let id ← .ofExcept (page.entry "id")
  let url ← .ofExcept (page.find "url")
  let created : Created := ⟨id, url.getD (.str ""), receipt.blocksAppended, conversion.warnings⟩
  .note (logCreated created)
  return created

/-- **Replace the content of a page by a document.** -/
def replacePageFrom (ch : Channel σ) (page : Json) (markdown : String)
    (modified : Option String) : Task σ Replaced := do
  let conversion ← ch.convert markdown
  let marker := (ch.settings.markerProperties modified).elim .null .obj
  let (deleted, receipt) ← ch.writer.replace page (conversion.blocks.map Block.toJson) marker
  let replaced : Replaced := ⟨page, deleted, receipt.blocksAppended, conversion.warnings⟩
  .note (logReplaced replaced)
  return replaced

end PageSync.Suspending.Channel
