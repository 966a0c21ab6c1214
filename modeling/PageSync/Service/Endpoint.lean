import PageSync.Json.Literal

/-!
# Service/Endpoint — the paths and bodies of calls, and what they do

`BlocksApi` and `PagesApi` say what can be done with blocks and pages, whoever does it; the
identifiers are those that answers gave.
-/

namespace PageSync

namespace Endpoint

/-- The path of a block. -/
def blockPath (id : Json) : String :=
  "/blocks/" ++ id.display

/-- The path of the children of a block or page. -/
def childrenPath (id : Json) : String :=
  blockPath id ++ "/children"

/-- The path of all pages. -/
def pagesPath : String :=
  "/pages"

/-- The path of a page. -/
def pagePath (id : Json) : String :=
  "/pages/" ++ id.display

/-- The path of the query of a database. -/
def queryPath (id : Json) : String :=
  "/databases/" ++ id.display ++ "/query"

/-- The body that adds children. -/
def appendBody (children : List Json) : Fields :=
  [("children", .arr children)]

/-- The body that creates a page. -/
def createBody (parent properties : Json) (children : Option Json) : Fields :=
  [("parent", parent), ("properties", properties)] ++
    (children.map fun c => ("children", c)).toList

/-- The body that updates the properties of a page. -/
def updateBody (properties : Json) : Fields :=
  [("properties", properties)]

/-- The arguments of a call with a body. -/
def withBody (body : Fields) : Fields :=
  [("json", .obj body)]

end Endpoint

/-- What can be done with blocks. -/
structure BlocksApi (m : Type → Type) where
  /-- The children of a block or page, in order. -/
  children : Json → m Json
  /-- Add children at the end. -/
  append : Json → List Json → m Json
  delete : Json → m Json

/-- What can be done with pages. -/
structure PagesApi (m : Type → Type) where
  /-- Create a page under a parent with some properties. -/
  create : Json → Json → m Json
  /-- Set some properties of a page. -/
  update : Json → Json → m Json

end PageSync
