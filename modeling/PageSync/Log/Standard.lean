import PageSync.Log.Registry
import PageSync.Page.Receipt
import PageSync.Page.Result
import PageSync.Service.Verdict

/-!
# Log/Standard — the loggers that are there from the start
-/

namespace PageSync.Log.Registry

/-- The names of the loggers that the operations write to. -/
def standardNames : List String :=
  [pageLogger, Receipt.logger, Response.logger]

/-- **The registry at the start**: the loggers of the operations write everything. -/
def standard : Registry :=
  standardNames.foldl (fun r name => (r.get name).2) empty

end PageSync.Log.Registry
