import PageSync.Journal
import PageSync.RichText.Warning

/-!
# Page/Result — what the operations on pages give
-/

namespace PageSync

/-- A page that was created. -/
structure Created where
  pageId : Json
  /-- The address of the page; empty where it was not reported. -/
  url : Json
  blocks : Nat
  warnings : List Warning

/-- A page whose content was replaced. -/
structure Replaced where
  pageId : Json
  deleted : Nat
  appended : Nat
  warnings : List Warning

namespace Created

/-- The result as a value. -/
def toJson (r : Created) : Json :=
  .obj [("page_id", r.pageId), ("url", r.url), ("blocks_created", .int r.blocks),
    ("warnings", .arr (r.warnings.map Warning.toJson))]

end Created

namespace Replaced

/-- The result as a value. -/
def toJson (r : Replaced) : Json :=
  .obj [("page_id", r.pageId), ("blocks_deleted", .int r.deleted),
    ("blocks_appended", .int r.appended), ("warnings", .arr (r.warnings.map Warning.toJson))]

end Replaced

/-- The name of the logger for operations on pages. -/
def pageLogger : String :=
  "drive2notion.client"

/-- The record on a page that was looked for. -/
def logFound (database : Json) (page : Option Json) (j : Journal) : Journal :=
  j.log pageLogger Log.debug "Page lookup"
    [("op", .str "find_page"), ("database_id", database), ("found", .bool page.isSome)]

/-- The record on a page that was created. -/
def logCreated (r : Created) (j : Journal) : Journal :=
  j.log pageLogger Log.info "Page created"
    [("op", .str "create_page"), ("page_id", r.pageId), ("blocks", .int r.blocks),
      ("warnings", .int r.warnings.length)]

/-- The record on a page whose content was replaced. -/
def logReplaced (r : Replaced) (j : Journal) : Journal :=
  j.log pageLogger Log.info "Page replaced"
    [("op", .str "replace_page"), ("page_id", r.pageId), ("blocks_deleted", .int r.deleted),
      ("blocks", .int r.appended), ("warnings", .int r.warnings.length)]

end PageSync
