import PageSync.Config
import PageSync.Journal
import PageSync.Redaction
import PageSync.Text.Numeral

/-!
# Service/Verdict — what an outcome means

A request is answered when its response is a success that is blank or JSON. Every other status is an
error of one kind, which carries the status and the code that the service gave. A failure of the
network is an error too; other failures are passed on as they are.
-/

namespace PageSync

/-- A request as its sender knows it: its method as written and its path. -/
structure Call where
  method : String
  path : String
  deriving DecidableEq, Repr

namespace Call

/-- A call in a message. -/
def shown (c : Call) : String :=
  c.method ++ " " ++ c.path

/-- The entries of a log record on a call. -/
def logged (c : Call) (more : Fields) : Fields :=
  [("op", .str "request"), ("method", .str c.method), ("path", .str c.path)] ++ more

/-- The tags of a metric on a call. -/
def tags (c : Call) (status : String) : Tags :=
  [("method", c.method), ("status", status)]

end Call

namespace Response

/-- The name of the logger for requests. -/
def logger : String :=
  "drive2notion.transport"

/-- The status of a response in digits. -/
def statusText (r : Response) : String :=
  String.ofList (Json.intText r.status)

/-- The kind of the error that a status is, and its wording. -/
def errorKind (status : Nat) : ErrorKind × String :=
  let digits := String.ofList (Json.intText status)
  if status = 401 then (.auth, "Authentication failed")
  else if status = 403 then (.permission, "Permission denied")
  else if status = 404 then (.notFound, "Resource not found")
  else if status = 409 then (.conflict, "Conflict")
  else if status = 429 then (.rateLimit, "Rate limited")
  else if status ≥ 500 then (.server, "Server error " ++ digits)
  else (.validation, "Client error " ++ digits)

/-- The entries of the body of an error; a body that is no object has none. -/
def errorBody (r : Response) : Fields :=
  (r.value?.bind Json.fields?).getD []

/-- The code that the service gave to an error. -/
def serviceCode (r : Response) : Json :=
  (r.errorBody.lookup "code").getD (.str "")

/-- The detail of an error: its message, or the beginning of the text. -/
def errorDetail (r : Response) : Json :=
  (r.errorBody.lookup "message").getD (.str (r.excerpt 500))

/-- The time after which a request may be sent again. -/
def retryAfter (r : Response) : Json :=
  match (r.header? "retry-after").bind Text.readFloat? with
  | some seconds => .float seconds
  | none => .null

/-- What the context of an error has besides the status and the code. -/
def ownContext (r : Response) (c : Call) : ErrorKind → Fields
  | .permission => [("operation", .str c.shown)]
  | .notFound => [("path", .str c.path)]
  | .rateLimit => [("retry_after_seconds", r.retryAfter)]
  | .validation => [("body", .obj r.errorBody)]
  | _ => []

/-- The error that a response is, when it is no success. -/
def fault (r : Response) (c : Call) : Fault :=
  let (kind, summary) := errorKind r.status
  .error kind (summary ++ " on " ++ c.shown ++ ": " ++ r.errorDetail.display)
    ([("status_code", .int r.status), ("notion_code", r.serviceCode)] ++ r.ownContext c kind) none

/-- **The answer in a response**, or the fault that it is. -/
def answer (r : Response) (c : Call) : Except Fault Json :=
  if r.isSuccess then
    if r.isBlank then .ok (.obj [])
    else match r.value? with
      | some value => .ok value
      | none => .error .undecodable
  else .error (r.fault c)

/-- The content of a response as it is shown: its value, or the beginning of its text. -/
def shownBody (r : Response) : Json :=
  r.value?.getD (.str (r.excerpt 1000))

end Response

/-- A request and its response as they are shown, without secrets. -/
def exchangeText (method url : String) (body : Option Json) (status : Option Json)
    (answer : Option Json) (token : Option String) : String :=
  let present (name : String) (value : Option Json) : Fields :=
    match value with
    | none | some .null => []
    | some value => [(name, value)]
  let fields := [("method", .str method), ("url", .str url)] ++ present "request_body" body ++
    present "response_status" status ++ present "response_body" answer
  Json.render .block (.obj (Redaction.redactFields token fields)) ++ "\n"

namespace Outcome

/-- **What an outcome means** for a call. -/
def answer (o : Outcome) (c : Call) : Except Fault Json :=
  match o with
  | .response r => r.answer c
  | .failure kind message =>
    let cause := Fault.http kind message
    if kind.isNetwork then
      .error (.error .network ("Network error on " ++ c.shown ++ ": " ++ message)
        [("method", .str c.method), ("path", .str c.path)] (some cause))
    else .error cause

/-- The record on a response that is no success. -/
def logResponse (r : Response) (c : Call) (j : Journal) : Journal :=
  if r.isSuccess then j
  else j.log Response.logger Log.warning "Notion API error"
    (c.logged [("status_code", .int r.status), ("notion_code", r.serviceCode)])

/-- What an outcome adds to a journal. -/
def observe (s : Settings) (q : Request) (o : Outcome) (c : Call) (j : Journal) : Journal :=
  match o with
  | .response r =>
    let tags := c.tags r.statusText
    let j := j.measure s.recordMetrics (.count "drive2notion.requests_total" 1 (some tags))
    let j := j.measure s.recordMetrics (.timing "drive2notion.request_duration_ms" tags)
    let j := j.dump s.dumpPayload
      (exchangeText c.method q.url q.body (some (.int r.status)) (some r.shownBody) (some s.token))
    logResponse r c j
  | .failure kind message =>
    if kind.isNetwork then
      let j := j.measure s.recordMetrics
        (.count "drive2notion.requests_total" 1 (some (c.tags "error")))
      j.log Response.logger Log.warning "Request network error" (c.logged [("error", .str message)])
    else j

end Outcome

end PageSync
