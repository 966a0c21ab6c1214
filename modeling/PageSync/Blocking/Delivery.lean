import PageSync.Batches
import PageSync.Blocking.Action
import PageSync.Page.Receipt
import PageSync.Service.Endpoint

/-!
# Blocking/Delivery — delivering blocks in batches

The batches go out strictly in order. The first one that fails ends the delivery: nothing is sent
again, and nothing that has arrived is taken back.
-/

namespace PageSync.Blocking

variable {σ : Type}

/-- Deliver batches, of which the first has the given number among a total. -/
def deliverFrom (s : Settings) (api : BlocksApi (Action σ)) (parent : Json) (total : Nat) :
    Nat → Receipt → List (List Json) → Action σ Receipt
  | _, receipt, [] => pure receipt
  | index, receipt, batch :: rest => do
    match ← (api.append parent batch).attempt with
    | .ok answer =>
      .note (receipt.logBatch parent batch.length)
      let ids ← .ofExcept answer.blockIds
      .note (Receipt.measureBatch s batch.length)
      deliverFrom s api parent total (index + 1) (receipt.add batch.length ids) rest
    | .error cause =>
      match cause.kind? with
      | some kind =>
        .note (Receipt.logFailed parent index total kind)
        .fail (receipt.failed parent index total cause)
      | none => .fail cause

/-- **Deliver blocks** to a parent, one batch a call. -/
def deliver (c : Config) (api : BlocksApi (Action σ)) (parent : Json) (blocks : List Json) :
    Action σ Receipt := do
  let batches := batchesOf c.batchSize.toNat blocks
  let receipt ← deliverFrom c.settings api parent batches.length 0 .none batches
  .note (receipt.logDone parent)
  return receipt

end PageSync.Blocking
