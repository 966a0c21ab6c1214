import PageSync.Config
import PageSync.Journal
import PageSync.Service.Access

/-!
# Page/Receipt — accounts of what was delivered

Blocks are delivered in batches, one after the other. A `Receipt` counts what has arrived; the first
batch that fails ends the delivery with an error that says how far it came.
-/

namespace PageSync

/-- What has been delivered. -/
structure Receipt where
  batchesSent : Nat
  blocksAppended : Nat
  /-- The identifiers of the new blocks, in order, as far as they were reported. -/
  blockIds : List Json

namespace Receipt

/-- Nothing has been delivered. -/
def none : Receipt :=
  ⟨0, 0, []⟩

/-- The name of the logger for deliveries. -/
def logger : String :=
  "drive2notion.emitter"

/-- The account after another batch of a size, whose blocks got identifiers. -/
def add (d : Receipt) (size : Nat) (ids : List Json) : Receipt :=
  ⟨d.batchesSent + 1, d.blocksAppended + size, d.blockIds ++ ids⟩

/-- The entries of a log record on a delivery to a parent. -/
def logged (parent : Json) (more : Fields) : Fields :=
  [("op", .str "emit"), ("parent_id", parent)] ++ more

/-- The record on a batch that has arrived. -/
def logBatch (parent : Json) (d : Receipt) (size : Nat) (j : Journal) : Journal :=
  j.log logger Log.debug "Batch appended"
    (logged parent [("batch", .int d.batchesSent), ("size", .int size)])

/-- Count a batch that has arrived. -/
def measureBatch (s : Settings) (size : Nat) (j : Journal) : Journal :=
  let j := j.measure s.recordMetrics (.count "drive2notion.batches_sent_total" 1 .none)
  j.measure s.recordMetrics (.count "drive2notion.blocks_appended_total" size .none)

/-- The record on a complete delivery. -/
def logDone (parent : Json) (d : Receipt) (j : Journal) : Journal :=
  j.log logger Log.info "Blocks emitted"
    (logged parent [("batches_sent", .int d.batchesSent),
      ("blocks_appended", .int d.blocksAppended), ("duration_ms", Journal.elapsed)])

/-- The record on a batch that failed: its number among all, and the code of the error. -/
def logFailed (parent : Json) (index total : Nat) (kind : ErrorKind) (j : Journal) : Journal :=
  j.log logger Log.warning "Batch append failed"
    (logged parent [("failed_batch", .int index), ("total_batches", .int total),
      ("error_code", .str kind.codeText)])

/-- **The error of a batch that failed**: how far the delivery came, and why it ended. -/
def failed (d : Receipt) (parent : Json) (index total : Nat) (cause : Fault) : Fault :=
  .error .batch
    ("Appending batch " ++ (Json.int (index + 1)).literal ++ " of " ++ (Json.int total).literal ++
      " to " ++ parent.display ++ " failed: " ++ cause.message)
    [("parent_id", parent), ("failed_batch", .int index), ("total_batches", .int total),
      ("batches_sent", .int d.batchesSent), ("blocks_appended", .int d.blocksAppended)]
    (some cause)

/-- An account as a value. -/
def toJson (d : Receipt) : Json :=
  .obj [("batches_sent", .int d.batchesSent), ("blocks_appended", .int d.blocksAppended),
    ("block_ids", .arr d.blockIds)]

/-- Count the blocks that were deleted. -/
def measureDeleted (s : Settings) (count : Nat) (j : Journal) : Journal :=
  j.measure s.recordMetrics (.count "drive2notion.blocks_deleted_total" count .none)

end Receipt

end PageSync
