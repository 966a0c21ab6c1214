import PageSync.Config
import PageSync.Service.Message
import PageSync.Text.Case
import PageSync.Url.Join

/-!
# Service/Connection — how calls become requests

A connection holds the settings and the base of all addresses. It is opened only when the base can
be requested and the headers can be sent; then every call becomes one request, unless its address or
its body is refused.
-/

namespace PageSync

namespace Json

mutual

/-- Whether every number in a value is finite. -/
def isFinite : Json → Bool
  | .float x => x.isFinite
  | .arr items => allFinite items
  | .obj fields => allFiniteFields fields
  | _ => true

/-- Whether every number in some values is finite. -/
def allFinite : List Json → Bool
  | [] => true
  | j :: rest => isFinite j && allFinite rest

/-- Whether every number in some entries is finite. -/
def allFiniteFields : List (String × Json) → Bool
  | [] => true
  | (_, j) :: rest => isFinite j && allFiniteFields rest

end

end Json

/-- Settings with the base of all addresses. -/
structure Connection where
  config : Config
  base : Url.Reference
  isBase : Url.base? config.settings.baseUrl = some base

namespace Connection

/-- The settings of a connection. -/
abbrev settings (c : Connection) : Settings :=
  c.config.settings

/-- Whether a text can stand in a header. -/
def isHeaderText (s : String) : Bool :=
  s.toList.all fun c => c.toNat < 128

/-- Whether the headers of some settings can be sent. -/
def headersFit (s : Settings) : Bool :=
  isHeaderText s.token && isHeaderText s.notionVersion

/-- **Open a connection**, or say why not. -/
def ofConfig (config : Config) : Except Fault Connection :=
  match h : Url.base? config.settings.baseUrl with
  | none => .error .badAddress
  | some base => if headersFit config.settings then .ok ⟨config, base, h⟩ else .error .badHeader

/-- The headers that are handed to the HTTP layer with every request. Where the address has a user,
that layer sends the credentials of the user in place of the authorization. -/
def headers (c : Connection) : List (String × String) :=
  [("authorization", "Bearer " ++ c.settings.token),
    ("notion-version", c.settings.notionVersion),
    ("content-type", "application/json")]

/-- What stands under a name among the arguments of a call; null says nothing. -/
def argument? (args : Fields) (name : String) : Option Json :=
  (args.lookup name).filter (· ≠ .null)

/-- **The request of a call.** The arguments are a body under `json` and the entries of a query
under `params`. These are an object where they are given: other values are not modelled, and stand
for no query. -/
def request (c : Connection) (method path : String) (args : Fields) : Except Fault Request := do
  let some url := Url.request? c.base path ((argument? args "params").bind Json.fields?)
    | throw .badAddress
  let body := argument? args "json"
  if body.all Json.isFinite then
    return ⟨Text.upper method, url.text, c.headers, body⟩
  else throw .unsendable

end Connection

end PageSync
