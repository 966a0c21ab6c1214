import PageSync.Blocking.Delivery

/-!
# Proofs/Delivery/Batch — what one batch does to a delivery

A batch is answered by something that reports blocks, or by something that cannot be read, or it is
refused.  One lemma for each case says how the delivery goes on from there; no later proof unfolds
`deliverFrom`.
-/

namespace PageSync

namespace Receipt

/-- **The fault that ends a delivery**: an error of the service becomes one with the account of the
delivery, any other fault stays what it is. -/
def interruption (r : Receipt) (parent : Json) (index total : Nat) (cause : Fault) : Fault :=
  if cause.kind?.isSome then r.failed parent index total cause else cause

/-- What is noted when a batch is refused. -/
def noteRefusal (parent : Json) (index total : Nat) (cause : Fault) (j : Journal) : Journal :=
  match cause.kind? with
  | some kind => logFailed parent index total kind j
  | .none => j

/-- What is noted when a batch has arrived. -/
def noteArrival (s : Settings) (parent : Json) (r : Receipt) (size : Nat) (j : Journal) : Journal :=
  measureBatch s size (r.logBatch parent size j)

@[simp] theorem batchesSent_add (r : Receipt) (size : Nat) (ids : List Json) :
    (r.add size ids).batchesSent = r.batchesSent + 1 := rfl

@[simp] theorem blocksAppended_add (r : Receipt) (size : Nat) (ids : List Json) :
    (r.add size ids).blocksAppended = r.blocksAppended + size := rfl

@[simp] theorem blockIds_add (r : Receipt) (size : Nat) (ids : List Json) :
    (r.add size ids).blockIds = r.blockIds ++ ids := rfl

theorem interruption_of_kind {cause : Fault} {kind : ErrorKind} (h : cause.kind? = some kind)
    (r : Receipt) (parent : Json) (index total : Nat) :
    r.interruption parent index total cause = r.failed parent index total cause := by
  rw [interruption, h, Option.isSome_some, if_pos rfl]

theorem interruption_of_no_kind {cause : Fault} (h : cause.kind? = .none) (r : Receipt)
    (parent : Json) (index total : Nat) : r.interruption parent index total cause = cause := by
  rw [interruption, h, Option.isSome_none, if_neg Bool.false_ne_true]

/-- **What the error of a failed batch carries**: its number among all, the account of the delivery,
and its cause. -/
theorem exists_failed_eq {r : Receipt} {sent appended : Nat} (hs : r.batchesSent = sent)
    (ha : r.blocksAppended = appended) (parent : Json) (index total : Nat) (cause : Fault) :
    ∃ message, r.failed parent index total cause = .error .batch message
      [("parent_id", parent), ("failed_batch", .int index), ("total_batches", .int total),
        ("batches_sent", .int sent), ("blocks_appended", .int appended)] (some cause) := by
  subst hs ha
  exact ⟨_, rfl⟩

@[simp] theorem requests_logBatch (r : Receipt) (parent : Json) (size : Nat) (j : Journal) :
    (r.logBatch parent size j).requests = j.requests := rfl

@[simp] theorem requests_noteArrival (s : Settings) (parent : Json) (r : Receipt) (size : Nat)
    (j : Journal) : (noteArrival s parent r size j).requests = j.requests := by
  simp only [noteArrival, measureBatch, Journal.requests_measure, requests_logBatch]

@[simp] theorem requests_noteRefusal (parent : Json) (index total : Nat) (cause : Fault)
    (j : Journal) : (noteRefusal parent index total cause j).requests = j.requests := by
  unfold noteRefusal
  split <;> rfl

end Receipt

namespace Blocking

section

variable {σ : Type} {s : Settings} {api : BlocksApi (Action σ)} {parent : Json} {total : Nat}
  {index : Nat} {r : Receipt} {batch : List Json} {rest : List (List Json)} {w w' : World σ}

@[simp] theorem run_deliverFrom_nil :
    (deliverFrom s api parent total index r []).run w = (.ok r, w) := rfl

/-- **A batch that has arrived** is counted, and the next one goes out. -/
theorem run_deliverFrom_arrived {answer : Json} {ids : List Json}
    (h : (api.append parent batch).run w = (.ok answer, w')) (hi : answer.blockIds = .ok ids) :
    (deliverFrom s api parent total index r (batch :: rest)).run w
      = (deliverFrom s api parent total (index + 1) (r.add batch.length ids) rest).run
          (w'.note (r.noteArrival s parent batch.length)) := by
  rw [deliverFrom, Action.run_bind_ok (Action.run_attempt _ _), h]
  simp only [Action.run_bind, Action.run_note, Action.run_ofExcept, hi]
  rfl

/-- **An answer that cannot be read** ends the delivery, although the batch has arrived. -/
theorem run_deliverFrom_unreadable {answer : Json} {e : Fault}
    (h : (api.append parent batch).run w = (.ok answer, w')) (hi : answer.blockIds = .error e) :
    (deliverFrom s api parent total index r (batch :: rest)).run w
      = (.error e, w'.note (r.logBatch parent batch.length)) := by
  rw [deliverFrom, Action.run_bind_ok (Action.run_attempt _ _), h]
  simp only [Action.run_bind, Action.run_note, Action.run_ofExcept, hi]

/-- **A batch that is refused** ends the delivery. -/
theorem run_deliverFrom_refused {cause : Fault}
    (h : (api.append parent batch).run w = (.error cause, w')) :
    (deliverFrom s api parent total index r (batch :: rest)).run w
      = (.error (r.interruption parent index total cause),
          w'.note (Receipt.noteRefusal parent index total cause)) := by
  rw [deliverFrom, Action.run_bind_ok (Action.run_attempt _ _), h]
  cases hk : cause.kind? with
  | none =>
    rw [Receipt.interruption_of_no_kind hk]
    simp only [hk, Action.run_fail, World.note, Receipt.noteRefusal]
  | some kind =>
    rw [Receipt.interruption_of_kind hk]
    simp only [hk, Action.run_bind, Action.run_note, Action.run_fail, World.note,
      Receipt.noteRefusal]

end

/-! ## A whole delivery -/

section

variable {σ : Type} {c : Config} {api : BlocksApi (Action σ)} {parent : Json} {blocks : List Json}
  {w w' : World σ}

/-- A delivery whose batches have all arrived notes that it is done. -/
theorem run_deliver_ok {r : Receipt}
    (h : (deliverFrom c.settings api parent (batchesOf c.batchSize.toNat blocks).length 0 .none
      (batchesOf c.batchSize.toNat blocks)).run w = (.ok r, w')) :
    (deliver c api parent blocks).run w = (.ok r, w'.note (r.logDone parent)) := by
  rw [deliver, Action.run_bind_ok h]
  rfl

/-- A delivery that was ended notes nothing more. -/
theorem run_deliver_error {e : Fault}
    (h : (deliverFrom c.settings api parent (batchesOf c.batchSize.toNat blocks).length 0 .none
      (batchesOf c.batchSize.toNat blocks)).run w = (.error e, w')) :
    (deliver c api parent blocks).run w = (.error e, w') := by
  rw [deliver, Action.run_bind_error h]

end

end Blocking

end PageSync
