import PageSync.Log.Record
import PageSync.Service.Message

/-!
# Journal — what can be observed of a run

The requests that were sent, the records that were logged, the metrics that were recorded and the
texts that were shown for debugging, each in order. Times are left out: where one stands, `elapsed`
stands for it.
-/

namespace PageSync

/-- The tags of a metric. -/
abbrev Tags := List (String × String)

/-- A recorded metric. -/
inductive Metric where
  | count (name : String) (value : Int) (tags : Option Tags)
  | timing (name : String) (tags : Tags)
  deriving DecidableEq, Repr

/-- What can be observed of a run. -/
structure Journal where
  requests : List Request
  logs : List Log.Record
  metrics : List Metric
  dumps : List String

namespace Journal

/-- Nothing has happened. -/
def empty : Journal :=
  ⟨[], [], [], []⟩

/-- What stands for a measured time. -/
def elapsed : Json :=
  .str "<ms>"

/-- Add a request. -/
def send (j : Journal) (q : Request) : Journal :=
  { j with requests := j.requests ++ [q] }

/-- Add a record with entries of its own. -/
def log (j : Journal) (logger : String) (level : Int) (message : String) (extra : Fields) :
    Journal :=
  { j with logs := j.logs ++ [⟨logger, level, message, extra, none, none⟩] }

/-- Add a metric, when metrics are recorded. -/
def measure (j : Journal) (on : Bool) (metric : Metric) : Journal :=
  if on then { j with metrics := j.metrics ++ [metric] } else j

/-- Add a text shown for debugging, when such texts are shown. -/
def dump (j : Journal) (on : Bool) (text : String) : Journal :=
  if on then { j with dumps := j.dumps ++ [text] } else j

section

variable (j : Journal)

@[simp] theorem requests_send (q : Request) : (j.send q).requests = j.requests ++ [q] := rfl

@[simp] theorem logs_send (q : Request) : (j.send q).logs = j.logs := rfl

@[simp] theorem metrics_send (q : Request) : (j.send q).metrics = j.metrics := rfl

@[simp] theorem requests_log (logger : String) (level : Int) (message : String) (extra : Fields) :
    (j.log logger level message extra).requests = j.requests := rfl

@[simp] theorem metrics_log (logger : String) (level : Int) (message : String) (extra : Fields) :
    (j.log logger level message extra).metrics = j.metrics := rfl

@[simp] theorem logs_log (logger : String) (level : Int) (message : String) (extra : Fields) :
    (j.log logger level message extra).logs =
      j.logs ++ [⟨logger, level, message, extra, none, none⟩] := rfl

@[simp] theorem requests_measure (on : Bool) (metric : Metric) :
    (j.measure on metric).requests = j.requests := by
  cases on <;> rfl

@[simp] theorem logs_measure (on : Bool) (metric : Metric) :
    (j.measure on metric).logs = j.logs := by
  cases on <;> rfl

@[simp] theorem metrics_measure (on : Bool) (metric : Metric) :
    (j.measure on metric).metrics = j.metrics ++ if on then [metric] else [] := by
  cases on
  · exact (List.append_nil _).symm
  · rfl

@[simp] theorem requests_dump (on : Bool) (text : String) :
    (j.dump on text).requests = j.requests := by
  cases on <;> rfl

@[simp] theorem logs_dump (on : Bool) (text : String) : (j.dump on text).logs = j.logs := by
  cases on <;> rfl

@[simp] theorem metrics_dump (on : Bool) (text : String) :
    (j.dump on text).metrics = j.metrics := by
  cases on <;> rfl

end

end Journal

end PageSync
