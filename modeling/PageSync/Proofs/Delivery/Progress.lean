import Mathlib.Algebra.Ring.Int.Defs
import PageSync.Proofs.Batches
import PageSync.Proofs.Delivery.Batch
import PageSync.Proofs.Service.ListAnswer

/-!
# Proofs/Delivery/Progress — the four accounts of a delivery agree

A delivery tells how far it came in four places: its receipt, the context of its error, its metrics
and its log.  Against a service that plays a script of answers and faults, all four agree
with the calls that were really made, wherever the script strikes.
-/

namespace PageSync

/-- The values that were recorded under the name of a counter, in order. -/
def Metric.values (name : String) (metrics : List Metric) : List Int :=
  metrics.filterMap fun
    | .count other value _ => if other = name then some value else none
    | .timing _ _ => none

@[simp] theorem Metric.values_append (name : String) (ms ns : List Metric) :
    Metric.values name (ms ++ ns) = Metric.values name ms ++ Metric.values name ns :=
  List.filterMap_append

/-! ## Scripts of answers -/

/-- What an append comes to. -/
inductive AppendOutcome where
  | answered (answer : ListAnswer)
  | raised (fault : Fault)

namespace AppendOutcome

/-- Whether an append was carried out. -/
def isAnswered : AppendOutcome → Bool
  | .answered _ => true
  | .raised _ => false

/-- The identifiers that came back. -/
def ids : AppendOutcome → List Json
  | .answered answer => answer.ids
  | .raised _ => []

/-- What the caller gets. -/
def result : AppendOutcome → Except Fault Json
  | .answered answer => .ok answer.toJson
  | .raised fault => .error fault

end AppendOutcome

/-- The appends that were asked for, in order: a parent and a batch each. -/
abbrev AppendCalls := List (Json × List Json)

/-- **A service that plays a script**: the `n`-th append comes to what the script has at `n`.  What
else the service can do is left open. -/
def scriptedAppends (script : Nat → AppendOutcome)
    (others : BlocksApi (Blocking.Action AppendCalls)) :
    BlocksApi (Blocking.Action AppendCalls) where
  children := others.children
  delete := others.delete
  append parent batch := fun w =>
    ((script w.peer.length).result, { w with peer := w.peer ++ [(parent, batch)] })

theorem run_scriptedAppends (script : Nat → AppendOutcome)
    (others : BlocksApi (Blocking.Action AppendCalls)) (parent : Json) (batch : List Json)
    (w : World AppendCalls) :
    ((scriptedAppends script others).append parent batch).run w
      = ((script w.peer.length).result, { w with peer := w.peer ++ [(parent, batch)] }) := rfl

/-! ## What is noted on the way -/

namespace Receipt

/-- What is noted when batches have arrived, the first of them with a number. -/
def noteArrivals (s : Settings) (parent : Json) : Nat → List (List Json) → Journal → Journal
  | _, [], j => j
  | n, batch :: rest, j =>
    noteArrivals s parent (n + 1) rest (noteArrival s parent ⟨n, 0, []⟩ batch.length j)

/-- The log line of a batch: its number and its size. -/
def arrivalLine (parent : Json) (n size : Nat) : Log.Record :=
  ⟨"drive2notion.emitter", Log.debug, "Batch appended",
    [("op", .str "emit"), ("parent_id", parent), ("batch", .int n), ("size", .int size)],
    Option.none, Option.none⟩

/-- The metrics of a batch: one more of them, and its size. -/
def arrivalMetrics (size : Nat) : List Metric :=
  [.count "drive2notion.batches_sent_total" 1 Option.none,
    .count "drive2notion.blocks_appended_total" size Option.none]

theorem logs_noteArrivals (s : Settings) (parent : Json) : ∀ (n : Nat) (bs : List (List Json))
    (j : Journal), (noteArrivals s parent n bs j).logs
      = j.logs ++ bs.mapIdx fun i b => arrivalLine parent (n + i) b.length
  | n, [], j => by rw [noteArrivals, List.mapIdx_nil, List.append_nil]
  | n, b :: rest, j => by
      rw [noteArrivals, logs_noteArrivals s parent (n + 1) rest, List.mapIdx_cons]
      simp only [noteArrival, measureBatch, logBatch, Journal.logs_measure, Journal.logs_log,
        List.append_assoc, List.singleton_append, Nat.add_zero, Nat.add_assoc, Nat.add_comm 1]
      rfl

theorem metrics_noteArrivals (s : Settings) (parent : Json) : ∀ (n : Nat) (bs : List (List Json))
    (j : Journal), (noteArrivals s parent n bs j).metrics
      = j.metrics ++ if s.recordMetrics then bs.flatMap (arrivalMetrics ·.length) else []
  | n, [], j => by simp [noteArrivals]
  | n, b :: rest, j => by
      rw [noteArrivals, metrics_noteArrivals s parent (n + 1) rest]
      cases h : s.recordMetrics <;>
        simp [noteArrival, measureBatch, logBatch, arrivalMetrics, h]

/-- The counter of batches goes up by one for each. -/
theorem values_batchesSent (bs : List (List Json)) :
    Metric.values "drive2notion.batches_sent_total" (bs.flatMap (arrivalMetrics ·.length))
      = List.replicate bs.length 1 := by
  induction bs with
  | nil => rfl
  | cons b rest ih =>
    rw [List.flatMap_cons, Metric.values_append, ih, List.length_cons, List.replicate_succ]
    rfl

/-- The counter of blocks goes up by the size of each batch. -/
theorem values_blocksAppended (bs : List (List Json)) :
    Metric.values "drive2notion.blocks_appended_total" (bs.flatMap (arrivalMetrics ·.length))
      = bs.map fun b => (b.length : Int) := by
  induction bs with
  | nil => rfl
  | cons b rest ih =>
    rw [List.flatMap_cons, Metric.values_append, ih, List.map_cons]
    rfl

end Receipt

/-! ## A run against a script -/

namespace Receipt

/-- The receipt after so many more batches have been answered by a script. -/
def grown (script : Nat → AppendOutcome) (r : Receipt) (batches : List (List Json)) : Receipt :=
  ⟨r.batchesSent + batches.length, r.blocksAppended + batches.flatten.length,
    r.blockIds ++ (List.range batches.length).flatMap fun i => (script (r.batchesSent + i)).ids⟩

theorem grown_nil (script : Nat → AppendOutcome) (r : Receipt) : r.grown script [] = r := by
  simp [grown]

/-- One batch that was answered, and then the others. -/
theorem grown_cons (script : Nat → AppendOutcome) (r : Receipt) (b : List Json)
    (rest : List (List Json)) :
    r.grown script (b :: rest) = (r.add b.length (script r.batchesSent).ids).grown script rest := by
  simp [grown, add, List.range_succ_eq_map, List.flatMap_map, Nat.add_assoc, Nat.add_comm 1]

end Receipt

namespace Blocking

section

open Receipt

variable (script : Nat → AppendOutcome) (others : BlocksApi (Action AppendCalls))

/-- **A run of a delivery**: some batches are answered; then either none is left, or the next one
runs into a fault of the script and nothing more is asked for. -/
theorem run_deliverFrom_scripted (s : Settings) (parent : Json) (total : Nat) :
    ∀ (batches : List (List Json)) (r : Receipt) (w : World AppendCalls),
      w.peer.length = r.batchesSent →
      ∃ k ≤ batches.length, (∀ i < k, (script (r.batchesSent + i)).isAnswered) ∧
        ((k = batches.length ∧
          (deliverFrom s (scriptedAppends script others) parent total r.batchesSent r batches).run w
            = (.ok (r.grown script batches),
                ⟨w.peer ++ batches.map (Prod.mk parent),
                  noteArrivals s parent r.batchesSent batches w.journal, w.closed⟩)) ∨
        (k < batches.length ∧ ∃ fault, script (r.batchesSent + k) = .raised fault ∧
          (deliverFrom s (scriptedAppends script others) parent total r.batchesSent r batches).run w
            = (.error ((r.grown script (batches.take k)).interruption parent (r.batchesSent + k)
                  total fault),
                ⟨w.peer ++ (batches.take (k + 1)).map (Prod.mk parent),
                  noteRefusal parent (r.batchesSent + k) total fault
                    (noteArrivals s parent r.batchesSent (batches.take k) w.journal), w.closed⟩)))
  | [], r, w, _ => by
      refine ⟨0, le_rfl, fun i hi => absurd hi (Nat.not_lt_zero i), .inl ⟨rfl, ?_⟩⟩
      rw [run_deliverFrom_nil, grown_nil, List.map_nil, List.append_nil, noteArrivals]
  | batch :: rest, r, w, hw => by
      have hcall := run_scriptedAppends script others parent batch w
      rw [hw] at hcall
      cases hs : script r.batchesSent with
      | raised fault =>
        rw [hs] at hcall
        refine ⟨0, Nat.zero_le _, fun i hi => absurd hi (Nat.not_lt_zero i),
          .inr ⟨Nat.succ_pos _, fault, hs, ?_⟩⟩
        rw [run_deliverFrom_refused hcall, List.take_zero, grown_nil]
        rfl
      | answered a =>
        rw [hs] at hcall
        have hlen : (w.peer ++ [(parent, batch)]).length
            = (r.add batch.length a.ids).batchesSent := by
          rw [List.length_append, hw]
          rfl
        obtain ⟨k, hk, hans, hrun⟩ := run_deliverFrom_scripted s parent total rest
          (r.add batch.length a.ids)
          (World.note { w with peer := w.peer ++ [(parent, batch)] }
            (r.noteArrival s parent batch.length)) hlen
        have hids : (script r.batchesSent).ids = a.ids := by rw [hs]; rfl
        have hshift : ∀ i, script (r.batchesSent + (i + 1)) = script (r.batchesSent + 1 + i) :=
          fun i => congrArg script (by omega)
        refine ⟨k + 1, Nat.succ_le_succ hk, fun i hi => ?_, ?_⟩
        · cases i with
          | zero => rw [Nat.add_zero, hs]; rfl
          | succ i => rw [hshift]; exact hans i (Nat.lt_of_succ_lt_succ hi)
        · rw [run_deliverFrom_arrived hcall a.blockIds_toJson]
          rcases hrun with ⟨hkl, hrun⟩ | ⟨hkl, fault, hf, hrun⟩
          · refine .inl ⟨congrArg (· + 1) hkl, ?_⟩
            rw [batchesSent_add] at hrun
            rw [hrun, grown_cons, hids, List.map_cons,
              List.append_cons w.peer (parent, batch) (rest.map _)]
            rfl
          · refine .inr ⟨Nat.succ_lt_succ hkl, fault, (hshift k).trans hf, ?_⟩
            rw [batchesSent_add] at hrun
            rw [hrun, List.take_succ_cons, List.take_succ_cons, grown_cons, hids, List.map_cons,
              List.append_cons w.peer (parent, batch) ((rest.take _).map _), Nat.add_assoc,
              Nat.add_comm 1 k]
            rfl

/-- The line that ends a delivery, if there is one, is no debugging note. -/
theorem logs_noteRefusal (parent : Json) (index total : Nat) (cause : Fault) (j : Journal) :
    ∃ last : List Log.Record, (∀ line ∈ last, line.level ≠ Log.debug) ∧
      (noteRefusal parent index total cause j).logs = j.logs ++ last ∧
      (noteRefusal parent index total cause j).metrics = j.metrics := by
  unfold noteRefusal
  split
  · refine ⟨_, ?_, Journal.logs_log _ _ _ _ _, rfl⟩
    intro line hline
    rw [List.mem_singleton.mp hline]
    exact (by decide : Log.warning ≠ Log.debug)
  · exact ⟨[], by simp, (List.append_nil _).symm, rfl⟩

/-- **A whole delivery against a script**: what it gives, what it asked for, and what it noted. -/
theorem run_deliver_scripted (c : Config) (parent : Json) (blocks : List Json) (j : Journal)
    (closed : Bool) :
    let batches := batchesOf c.batchSize.toNat blocks
    let run := (deliver c (scriptedAppends script others) parent blocks).run ⟨[], j, closed⟩
    ∃ k ≤ batches.length, (∀ i < k, (script i).isAnswered) ∧
      run.2.peer = (batches.take (k + 1)).map (Prod.mk parent) ∧
      (k = batches.length → run.1 = .ok (Receipt.none.grown script batches)) ∧
      (k < batches.length → ∃ fault, script k = .raised fault ∧ run.1 =
        .error ((Receipt.none.grown script (batches.take k)).interruption parent k
          batches.length fault)) ∧
      ∃ last : List Log.Record, (∀ line ∈ last, line.level ≠ Log.debug) ∧
        run.2.journal.logs
          = (noteArrivals c.settings parent 0 (batches.take k) j).logs ++ last ∧
        run.2.journal.metrics = (noteArrivals c.settings parent 0 (batches.take k) j).metrics := by
  intro batches run
  obtain ⟨k, hk, hans, hrun⟩ := run_deliverFrom_scripted script others c.settings parent
    batches.length batches Receipt.none ⟨[], j, closed⟩ rfl
  refine ⟨k, hk, fun i hi => Nat.zero_add i ▸ hans i hi, ?_⟩
  rcases hrun with ⟨hkl, hrun⟩ | ⟨hkl, fault, hf, hrun⟩
  · have hd : run = _ := run_deliver_ok hrun
    rw [hd, hkl, List.take_length, List.take_of_length_le (Nat.le_succ _)]
    refine ⟨rfl, fun _ => rfl, fun h => absurd h (Nat.lt_irrefl _), _, ?_,
      Journal.logs_log _ _ _ _ _, rfl⟩
    intro line hline
    rw [List.mem_singleton.mp hline]
    exact (by decide : Log.info ≠ Log.debug)
  · have hd : run = _ := run_deliver_error hrun
    rw [Receipt.none, Nat.zero_add] at hf
    rw [hd]
    refine ⟨rfl, fun h => absurd hkl (h ▸ Nat.lt_irrefl _), fun _ => ⟨fault, hf, ?_⟩, ?_⟩
    · exact congrArg _ (congrArg (interruption _ parent · batches.length fault) (Nat.zero_add k))
    · exact logs_noteRefusal parent _ batches.length fault _

end

/-! ## The accounts -/

/-- The sizes of batches add up to the number of their blocks. -/
theorem sum_map_length (bs : List (List Json)) :
    (bs.map fun b => (b.length : Int)).sum = bs.flatten.length := by
  induction bs with
  | nil => rfl
  | cons b rest ih =>
    rw [List.map_cons, List.sum_cons, ih, List.flatten_cons, List.length_append, Int.natCast_add]

/-- What is recorded of batches that have arrived: one of each, and their sizes. -/
theorem values_of_arrivals {size : Nat} (hs : 0 < size) {k : Nat} {blocks : List Json}
    (hk : k ≤ (batchesOf size blocks).length) :
    let recorded := ((batchesOf size blocks).take k).flatMap (Receipt.arrivalMetrics ·.length)
    Metric.values "drive2notion.batches_sent_total" recorded = List.replicate k 1 ∧
    Metric.values "drive2notion.blocks_appended_total" recorded
      = (List.range k).map (fun i => ((batchAt size blocks i).length : Int)) ∧
    (Metric.values "drive2notion.blocks_appended_total" recorded).sum
      = min (k * size) blocks.length := by
  intro recorded
  have hsizes : Metric.values "drive2notion.blocks_appended_total" recorded
      = ((batchesOf size blocks).take k).map fun b => (b.length : Int) :=
    Receipt.values_blocksAppended _
  refine ⟨?_, ?_, ?_⟩
  · rw [Receipt.values_batchesSent, List.length_take, min_eq_left hk]
  · rw [hsizes, take_batchesOf hs, min_eq_left hk, List.map_map]
    rfl
  · rw [hsizes, sum_map_length, flatten_take_batchesOf hs, List.length_take]

/-- The log lines of batches that have arrived are numbered from the first one. -/
theorem lines_of_arrivals {size : Nat} (hs : 0 < size) (parent : Json) {k : Nat}
    {blocks : List Json} (hk : k ≤ (batchesOf size blocks).length) :
    ((batchesOf size blocks).take k).mapIdx (fun i b => Receipt.arrivalLine parent (0 + i) b.length)
      = (List.range k).map fun i =>
          Receipt.arrivalLine parent i (batchAt size blocks i).length := by
  rw [take_batchesOf hs, min_eq_left hk]
  refine List.ext_getElem (by simp) fun i hi hi' => ?_
  simp only [List.getElem_mapIdx, List.getElem_map, List.getElem_range, Nat.zero_add]

/-- Lines of arrived batches are debugging notes, and the line that ends a delivery is none. -/
theorem filter_debug_lines (parent : Json) (f : Nat → Nat) (k : Nat) (last : List Log.Record)
    (hlast : ∀ line ∈ last, line.level ≠ Log.debug) :
    (((List.range k).map fun i => Receipt.arrivalLine parent i (f i)) ++ last).filter
        (·.level = Log.debug)
      = (List.range k).map fun i => Receipt.arrivalLine parent i (f i) := by
  rw [List.filter_append, List.filter_eq_self.mpr, List.filter_eq_nil_iff.mpr, List.append_nil]
  · intro line hline
    simpa using hlast line hline
  · intro line hline
    obtain ⟨i, -, rfl⟩ := List.mem_map.mp hline
    exact decide_eq_true rfl

/-- **The accounts of a delivery agree with the calls that were made.**  After `k` answered appends
the delivery is complete, or the next append ran into a fault; then an error of the service comes
out as one that carries the account, and any other fault comes out as it is.  The calls, the
receipt, the counters and the log lines are those of exactly `k` arrived batches. -/
theorem deliver_accounts_agree (c : Config) (script : Nat → AppendOutcome)
    (others : BlocksApi (Action AppendCalls)) (parent : Json) (blocks : List Json) (j : Journal)
    (closed : Bool) :
    let size := c.batchSize.toNat
    let total := (blocks.length + size - 1) / size
    let run := (deliver c (scriptedAppends script others) parent blocks).run ⟨[], j, closed⟩
    ∃ k ≤ total,
      (∀ i < k, (script i).isAnswered) ∧
      run.2.peer
        = (List.range (min (k + 1) total)).map (fun i => (parent, batchAt size blocks i)) ∧
      (k = total →
        run.1 = .ok ⟨total, blocks.length, (List.range k).flatMap fun i => (script i).ids⟩) ∧
      (k < total → ∃ fault, script k = .raised fault ∧
        (fault.kind?.isSome → ∃ message, run.1 = .error (.error .batch message
          [("parent_id", parent), ("failed_batch", .int k), ("total_batches", .int total),
            ("batches_sent", .int k), ("blocks_appended", .int (k * size))] (some fault))) ∧
        (fault.kind? = none → run.1 = .error fault)) ∧
      (∃ recorded, run.2.journal.metrics = j.metrics ++ recorded ∧
        (c.settings.recordMetrics = true →
          Metric.values "drive2notion.batches_sent_total" recorded = List.replicate k 1 ∧
          Metric.values "drive2notion.blocks_appended_total" recorded
            = (List.range k).map (fun i => ((batchAt size blocks i).length : Int)) ∧
          (Metric.values "drive2notion.blocks_appended_total" recorded).sum
            = min (k * size) blocks.length)) ∧
      (∃ lines, run.2.journal.logs = j.logs ++ lines ∧
        lines.filter (·.level = Log.debug) = (List.range k).map fun i =>
          ⟨"drive2notion.emitter", Log.debug, "Batch appended",
            [("op", .str "emit"), ("parent_id", parent), ("batch", .int i),
              ("size", .int (batchAt size blocks i).length)], none, none⟩) := by
  intro size total run
  have hs : 0 < size := c.toNat_batchSize_pos
  have htotal : (batchesOf size blocks).length = total := length_batchesOf hs blocks
  obtain ⟨k, hk, hans, hcalls, hok, herr, last, hlast, hlogs, hmetrics⟩ :=
    run_deliver_scripted script others c parent blocks j closed
  refine ⟨k, htotal ▸ hk, hans, ?_, fun h => ?_, fun h => ?_, ?_, ?_⟩
  · rw [hcalls, take_batchesOf hs, List.map_map, htotal]
    rfl
  · rw [hok (h.trans htotal.symm), Receipt.grown, flatten_batchesOf hs, htotal, h]
    simp [Receipt.none]
  · obtain ⟨fault, hf, hrun⟩ := herr (htotal.symm ▸ h)
    refine ⟨fault, hf, fun hkind => ?_, fun hkind => ?_⟩
    · obtain ⟨kind, hkind⟩ := Option.isSome_iff_exists.mp hkind
      have hsent : (Receipt.none.grown script ((batchesOf size blocks).take k)).batchesSent = k :=
        (Nat.zero_add _).trans (List.length_take.trans (min_eq_left hk))
      have happended :
          (Receipt.none.grown script ((batchesOf size blocks).take k)).blocksAppended = k * size :=
        (Nat.zero_add _).trans (length_flatten_take_batchesOf hs (htotal.symm ▸ h))
      obtain ⟨message, hfailed⟩ :=
        Receipt.exists_failed_eq hsent happended parent k total fault
      refine ⟨message, ?_⟩
      rw [hrun, Receipt.interruption_of_kind hkind, htotal, hfailed, Int.natCast_mul]
    · rw [hrun, Receipt.interruption_of_no_kind hkind]
  · refine ⟨_, hmetrics.trans (Receipt.metrics_noteArrivals _ _ _ _ _), fun hrec => ?_⟩
    rw [hrec, if_pos rfl]
    exact values_of_arrivals hs hk
  · refine ⟨_, ?_, filter_debug_lines parent (fun i => (batchAt size blocks i).length) k last hlast⟩
    rw [hlogs, Receipt.logs_noteArrivals, lines_of_arrivals hs parent hk, List.append_assoc]

end Blocking

end PageSync
