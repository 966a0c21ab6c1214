import PageSync.Json.Literal
import PageSync.Url.Reference

/-!
# Url/Join — the address of a request

All requests go to one base. The path of a request is put behind it, and the entries of its query
are written as pairs.
-/

namespace PageSync.Url

/-- The base of all requests: an address whose path ends with a slash. -/
def base? (address : String) : Option Reference := do
  let r ← Reference.read? address
  if r.target.getLast? = some '/' then some r else r.withTarget? (r.target ++ ['/'])

/-- **The address of a request**: a path is put behind the base, an address that stands on its own
is taken as it is. -/
def join? (base : Reference) (address : String) : Option Reference := do
  let r ← Reference.read? address
  if r.isAbsolute then some r
  else base.withTarget? (base.target ++ r.target.dropWhile (· == '/'))

/-! ## Queries -/

/-- The text of a value in a query. -/
def queryValue : Json → String
  | .bool true => "true"
  | .bool false => "false"
  | .null => ""
  | j => j.display

/-- The values that an entry of a query has. -/
def queryValues : Json → List Json
  | .arr items => items
  | j => [j]

/-- A text as it stands in a query: blanks are plus signs. -/
def queryText (s : String) : List Char :=
  s.toList.flatMap fun c =>
    if c = ' ' then ['+'] else if Text.isUnreserved c then [c] else Text.percentChar c

/-- The query that entries make; without entries there is none. -/
def queryOf (params : Fields) : Option (List Char) :=
  if params.isEmpty then none
  else
    let pairs := params.flatMap fun (name, value) =>
      (queryValues value).map fun v => queryText name ++ '=' :: queryText (queryValue v)
    some (['&'].intercalate pairs)

/-- The address of a request with the entries of its query, where some are given. -/
def request? (base : Reference) (address : String) (params : Option Fields) : Option Reference := do
  let r ← join? base address
  match params with
  | some params => r.withQuery? (queryOf params)
  | none => some r

end PageSync.Url
