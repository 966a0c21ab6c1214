import PageSync.Service.Access
import PageSync.Service.Message
import PageSync.Text.Case

/-!
# Service/Paging — lists that come in pages

A call for a page asks for a hundred items and names the cursor at which the page begins; the first
page has no cursor. A page that announces more gives the cursor of the next one.
-/

namespace PageSync

/-- The number of items in a page. -/
def pageSize : Nat :=
  100

/-- The argument in which calls of a method say which page they ask for. -/
def pagingArgument (method : String) : String :=
  if ["POST", "PATCH"].contains (Text.upper method) then "json" else "params"

/-- The arguments of a call for the page at a cursor. The argument that says which page is meant is
an object where it is given: other values are not modelled, and stand for an empty one. -/
def pageArguments (method : String) (cursor : Option Json) (args : Fields) : Fields :=
  let name := pagingArgument method
  let given := ((args.lookup name).bind Json.fields?).getD []
  let sized := given.set "page_size" (.int pageSize)
  args.set name (.obj (match cursor with
    | some cursor => sized.set "start_cursor" cursor
    | none => sized.erase "start_cursor"))

/-- The items of a page and the cursor of the next page, if one is announced. -/
structure Page where
  items : List Json
  next : Option Json

namespace Page

/-- The cursor of the page after an answer, if it announces one. -/
def nextOf (answer : Fields) : Option Json :=
  if ((answer.lookup "has_more").getD (.bool false)).truthy then
    (answer.lookup "next_cursor").filter (· ≠ .null)
  else none

/-- The page that an answer is. -/
def ofAnswer (answer : Json) : Except Fault Page := do
  let items ← answer.elementsAt "results"
  return ⟨items, answer.fields?.bind nextOf⟩

end Page

/-- Whether a response announces another page. -/
def Response.announcesMore (r : Response) : Bool :=
  ((r.value?.bind Json.fields?).bind Page.nextOf).isSome

/-- Whether an outcome announces another page. -/
def Outcome.announcesMore : Outcome → Bool
  | .response r => r.announcesMore
  | .failure _ _ => false

end PageSync
