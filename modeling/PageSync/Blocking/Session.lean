import PageSync.Blocking.Endpoints
import PageSync.Blocking.PageWriter
import PageSync.Conversion
import PageSync.Page.Result

/-!
# Blocking/Session — the operations of a sync run

A run finds the page that was written from a source, creates a page from a document, or replaces the
content of a page by a document. A replacement writes the time of the source last, so it leaves no
incomplete page that looks up to date; a creation writes it with the page, before the content.
-/

namespace PageSync.Blocking.Channel

variable {σ : Type}

/-- What writes pages over a channel. -/
def writer (ch : Channel σ) : PageWriter σ :=
  ⟨ch.connection.config, ch.pagesApi, ch.blocksApi⟩

/-- Convert a document. -/
def convert (ch : Channel σ) (markdown : String) : Action σ Conversion :=
  .noting (Conversion.run ch.settings markdown)

/-- **The page that was written from a source**, if there is one. -/
def findPage (ch : Channel σ) (database : Json) (key : String) : Action σ (Option Json) := do
  let page ← ch.queryByKey database ch.settings.keyProperty key
  .note (logFound database page)
  return page

/-- **Create a page from a document.** -/
def createPageFrom (ch : Channel σ) (database : Json) (title markdown : String)
    (key modified : Option String) (extra : Fields) : Action σ Created := do
  let conversion ← ch.convert markdown
  let (page, receipt) ← ch.writer.create (.obj [("database_id", database)])
    (.obj (ch.settings.pageProperties title key modified extra))
    (conversion.blocks.map Block.toJson)
  let id ← .ofExcept (page.entry "id")
  let url ← .ofExcept (page.find "url")
  let created : Created := ⟨id, url.getD (.str ""), receipt.blocksAppended, conversion.warnings⟩
  .note (logCreated created)
  return created

/-- **Replace the content of a page by a document.** -/
def replacePageFrom (ch : Channel σ) (page : Json) (markdown : String)
    (modified : Option String) : Action σ Replaced := do
  let conversion ← ch.convert markdown
  let marker := (ch.settings.markerProperties modified).elim .null .obj
  let (deleted, receipt) ← ch.writer.replace page (conversion.blocks.map Block.toJson) marker
  let replaced : Replaced := ⟨page, deleted, receipt.blocksAppended, conversion.warnings⟩
  .note (logReplaced replaced)
  return replaced

end PageSync.Blocking.Channel
