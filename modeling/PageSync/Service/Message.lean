import PageSync.Fault
import PageSync.Json.Reader

/-!
# Service/Message — requests and what comes of them

A request has a method, an address, headers and possibly a body. What comes of it is a response or a
failure below the service.
-/

namespace PageSync

/-- A request as it is sent. -/
structure Request where
  method : String
  url : String
  headers : List (String × String)
  body : Option Json
  deriving DecidableEq

/-- A response as it is received. -/
structure Response where
  status : Nat
  headers : List (String × String)
  text : String
  deriving DecidableEq, Repr

/-- What comes of a request. -/
inductive Outcome where
  | response (response : Response)
  | failure (kind : HttpFailure) (message : String)
  deriving DecidableEq, Repr

namespace Response

/-- The value of a header, whatever the case of its name; several values are joined. -/
def header? (r : Response) (name : String) : Option String :=
  let values := r.headers.filter fun (other, _) => other.map Char.toLower = name
  if values.isEmpty then none else some (", ".intercalate (values.map (·.2)))

/-- Whether a response says that the request was carried out. -/
def isSuccess (r : Response) : Bool :=
  200 ≤ r.status && r.status < 300

/-- Whether a response has no content to be read. -/
def isBlank (r : Response) : Bool :=
  r.status = 204 || r.text = ""

/-- The mark that may stand in front of a text. -/
def byteOrderMark : Char :=
  Char.ofNat 0xFEFF

/-- The value that the text of a response writes, if it is JSON. -/
def value? (r : Response) : Option Json :=
  match r.text.toList with
  | c :: cs => Json.read? (if c = byteOrderMark then String.ofList cs else r.text)
  | [] => none

/-- The first characters of the text of a response. -/
def excerpt (r : Response) (length : Nat) : String :=
  String.ofList (r.text.toList.take length)

end Response

end PageSync
