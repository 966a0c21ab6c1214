import PageSync.Proofs.Delivery.Progress
import PageSync.Proofs.Page.Host
import PageSync.Proofs.Page.Stages

/-!
# Proofs/Page/Counters — what the counters say of a replacement

Every call of a replacement comes to an answer or a fault of a script, and all of them are written
down with what they came to.  A batch is counted behind its append, once the answer has been read
(`deliverFrom_adds`); the deletions are counted together, behind the last of them.  So where a
deletion fails, those before it are in no counter (`Counts`, `replace_adds`), and
`counters_agree_iff` says when the counters agree with the calls.
-/

namespace PageSync

/-! ## Calls and their outcomes -/

/-- The calls that were made, in order, and what each came to. -/
abbrev CallLog := List (PageCall × Except Fault Json)

namespace CallLog

/-- The blocks that a call deleted. -/
def deleted : PageCall × Except Fault Json → Nat
  | (.delete _, .ok _) => 1
  | _ => 0

/-- Whether a call should have deleted a block, and did not. -/
def failedDelete : PageCall × Except Fault Json → Bool
  | (.delete _, .error _) => true
  | _ => false

/-- The blocks that a call appended. -/
def appended : PageCall × Except Fault Json → Nat
  | (.append _ batch, .ok _) => batch.length
  | _ => 0

/-- Whether a call appended blocks and was answered by something that does not report them. -/
def unreported : PageCall × Except Fault Json → Bool
  | (.append _ _, .ok answer) => !answer.blockIds.isOk
  | _ => false

/-- The blocks that a call appended and reported. -/
def reported (e : PageCall × Except Fault Json) : Nat :=
  if unreported e then 0 else appended e

/-- The sum of a number over all calls. -/
def total (f : PageCall × Except Fault Json → Nat) : CallLog → Nat
  | [] => 0
  | e :: calls => f e + total f calls

variable (f : PageCall × Except Fault Json → Nat)

@[simp] theorem total_nil : total f [] = 0 := rfl

@[simp] theorem total_cons (e : PageCall × Except Fault Json) (calls : CallLog) :
    total f (e :: calls) = f e + total f calls := rfl

@[simp] theorem total_append (calls more : CallLog) :
    total f (calls ++ more) = total f calls + total f more := by
  induction calls with
  | nil => rw [List.nil_append, total_nil, Nat.zero_add]
  | cons e calls ih => rw [List.cons_append, total_cons, total_cons, ih, Nat.add_assoc]

theorem total_eq_zero_iff {f : PageCall × Except Fault Json → Nat} {calls : CallLog} :
    total f calls = 0 ↔ ∀ e ∈ calls, f e = 0 := by
  induction calls with
  | nil => simp
  | cons e calls ih => rw [total_cons, Nat.add_eq_zero_iff, ih, List.forall_mem_cons]

theorem reported_le (e : PageCall × Except Fault Json) : reported e ≤ appended e := by
  rw [reported]
  split
  · exact Nat.zero_le _
  · exact le_rfl

theorem total_reported_le (calls : CallLog) : total reported calls ≤ total appended calls := by
  induction calls with
  | nil => exact le_rfl
  | cons e calls ih =>
    rw [total_cons, total_cons]
    exact Nat.add_le_add (reported_le e) ih

/-- **All appended blocks are reported exactly where every answer reports its own**, when no append
was empty. -/
theorem total_reported_eq_iff : ∀ {calls : CallLog},
    (∀ e ∈ calls, unreported e = true → appended e ≠ 0) →
    (total reported calls = total appended calls ↔ ∀ e ∈ calls, unreported e = false)
  | [], _ => by simp
  | e :: calls, h => by
      obtain ⟨he, hcalls⟩ := List.forall_mem_cons.mp h
      have ih := total_reported_eq_iff hcalls
      have hle := total_reported_le calls
      rw [total_cons, total_cons, List.forall_mem_cons, ← ih]
      cases hlost : unreported e with
      | false =>
        have heq : reported e = appended e := by rw [reported, hlost, if_neg Bool.false_ne_true]
        simp [heq]
      | true =>
        have hzero : reported e = 0 := by rw [reported, hlost, if_pos rfl]
        have hsize := he hlost
        simp only [hzero, Bool.true_eq_false, false_and, iff_false]
        omega

/-! ### Kinds of calls -/

/-- Whether a call deletes. -/
def isDelete : PageCall × Except Fault Json → Bool
  | (.delete _, _) => true
  | _ => false

/-- Whether a call appends blocks, some at least. -/
def isDelivery : PageCall × Except Fault Json → Bool
  | (.append _ batch, _) => !batch.isEmpty
  | _ => false

/-- Whether a call leaves the blocks of all pages alone. -/
def isQuiet : PageCall × Except Fault Json → Bool
  | (.children _, _) | (.update _ _, _) => true
  | _ => false

theorem of_isDelete : ∀ {e : PageCall × Except Fault Json}, isDelete e = true →
    reported e = 0 ∧ unreported e = false
  | (.delete _, _), _ => ⟨rfl, rfl⟩
  | (.append _ _, _), h | (.children _, _), h | (.update _ _, _), h => absurd h Bool.false_ne_true

theorem of_isDelivery : ∀ {e : PageCall × Except Fault Json}, isDelivery e = true →
    deleted e = 0 ∧ failedDelete e = false ∧ (unreported e = true → appended e ≠ 0)
  | (.append _ [], _), h => absurd h Bool.false_ne_true
  | (.append _ (_ :: _), .ok _), _ => ⟨rfl, rfl, fun _ => Nat.succ_ne_zero _⟩
  | (.append _ (_ :: _), .error _), _ => ⟨rfl, rfl, fun h => absurd h Bool.false_ne_true⟩
  | (.children _, _), h | (.delete _, _), h | (.update _ _, _), h => absurd h Bool.false_ne_true

theorem of_isQuiet : ∀ {e : PageCall × Except Fault Json}, isQuiet e = true →
    deleted e = 0 ∧ failedDelete e = false ∧ reported e = 0 ∧ unreported e = false
  | (.children _, _), _ | (.update _ _, _), _ => ⟨rfl, rfl, rfl, rfl⟩
  | (.append _ _, _), h | (.delete _, _), h => absurd h Bool.false_ne_true

end CallLog

/-- The sum of what was recorded under the name of a counter. -/
def Metric.total (name : String) (metrics : List Metric) : Int :=
  (Metric.values name metrics).sum

@[simp] theorem Metric.total_nil (name : String) : Metric.total name [] = 0 := rfl

@[simp] theorem Metric.total_append (name : String) (ms ns : List Metric) :
    Metric.total name (ms ++ ns) = Metric.total name ms + Metric.total name ns := by
  rw [total, values_append, List.sum_append, total, total]

namespace Blocking

open CallLog

/-- **A service that plays a script**: the `n`-th call comes to what the script has at `n`. -/
def scriptedCall (script : Nat → Except Fault Json) (call : PageCall) : Action CallLog Json :=
  fun w => (script w.peer.length, { w with peer := w.peer ++ [(call, script w.peer.length)] })

/-- What writes pages through a service that plays a script.  How pages are created is left open. -/
def scriptedWriter (script : Nat → Except Fault Json) (c : Config)
    (create : Json → Json → Action CallLog Json) : PageWriter CallLog where
  config := c
  pages := ⟨create, fun page properties => scriptedCall script (.update page properties)⟩
  blocks := ⟨fun page => scriptedCall script (.children page),
    fun page batch => scriptedCall script (.append page batch),
    fun block => scriptedCall script (.delete block)⟩

/-- **What a stretch of a run adds**: calls with what they came to, and metrics. -/
structure Adds (w : World CallLog) (calls : CallLog) (recorded : List Metric)
    (w' : World CallLog) : Prop where
  calls : w'.peer = w.peer ++ calls
  metrics : w'.journal.metrics = w.journal.metrics ++ recorded

namespace Adds

variable {w w' w'' : World CallLog} {calls calls' : CallLog} {recorded recorded' : List Metric}

theorem refl (w : World CallLog) : Adds w [] [] w :=
  ⟨(List.append_nil _).symm, (List.append_nil _).symm⟩

theorem trans (h : Adds w calls recorded w') (h' : Adds w' calls' recorded' w'') :
    Adds w (calls ++ calls') (recorded ++ recorded') w'' where
  calls := by rw [h'.calls, h.calls, List.append_assoc]
  metrics := by rw [h'.metrics, h.metrics, List.append_assoc]

/-- A note adds the metrics that it adds to the journal. -/
theorem note (w : World CallLog) (f : Journal → Journal) (recorded : List Metric)
    (hf : (f w.journal).metrics = w.journal.metrics ++ recorded) : Adds w [] recorded (w.note f) :=
  ⟨(List.append_nil _).symm, hf⟩

end Adds

/-- A call adds itself, and comes to what the script has. -/
theorem exists_run_scriptedCall (script : Nat → Except Fault Json) (call : PageCall)
    (w : World CallLog) :
    ∃ outcome w', (scriptedCall script call).run w = (outcome, w') ∧
      Adds w [(call, outcome)] [] w' :=
  ⟨_, _, rfl, rfl, (List.append_nil _).symm⟩

/-! ## The stages of a replacement -/

section

variable (script : Nat → Except Fault Json) (c : Config)
  (create : Json → Json → Action CallLog Json)

/-- **Deletions record nothing.**  They end with their number, or with the first one that fails. -/
theorem deleteAll_adds : ∀ (ids : List Json) (count : Nat) (w : World CallLog),
    ∃ calls w', Adds w calls [] w' ∧ (∀ e ∈ calls, isDelete e = true) ∧
      (((scriptedWriter script c create).deleteAll count ids).run w
          = (.ok (count + total deleted calls), w') ∧ calls.any failedDelete = false ∨
        (∃ e, ((scriptedWriter script c create).deleteAll count ids).run w = (.error e, w')) ∧
          calls.any failedDelete = true)
  | [], count, w => ⟨[], w, .refl w, by simp, .inl ⟨rfl, rfl⟩⟩
  | id :: rest, count, w => by
      obtain ⟨outcome, w', hcall, hadds⟩ := exists_run_scriptedCall script (.delete id) w
      cases outcome with
      | error e =>
        exact ⟨_, w', hadds, by simp [isDelete], .inr ⟨⟨e, Action.run_bind_error hcall⟩, rfl⟩⟩
      | ok answer =>
        obtain ⟨calls, w'', hmore, hdeletes, hrun⟩ := deleteAll_adds rest (count + 1) w'
        have hnext : ((scriptedWriter script c create).deleteAll count (id :: rest)).run w
            = ((scriptedWriter script c create).deleteAll (count + 1) rest).run w' :=
          Action.run_bind_ok hcall
        refine ⟨_, w'', hadds.trans hmore, List.forall_mem_cons.mpr ⟨rfl, hdeletes⟩, ?_⟩
        rw [hnext]
        rcases hrun with ⟨hok, hall⟩ | ⟨herr, hany⟩
        · left
          refine ⟨?_, by simpa [failedDelete] using hall⟩
          rw [hok]
          simp [deleted, Nat.add_assoc]
        · exact .inr ⟨herr, by simp [hany]⟩

/-- **What a delivery does and records**: appends, and the blocks that are reported. -/
structure Delivers (calls : CallLog) (recorded : List Metric) : Prop where
  appends : ∀ e ∈ calls, isDelivery e = true
  silent : Metric.total "drive2notion.blocks_deleted_total" recorded = 0
  counted : Metric.total "drive2notion.blocks_appended_total" recorded = total reported calls

theorem Delivers.append {calls calls' : CallLog} {recorded recorded' : List Metric}
    (h : Delivers calls recorded) (h' : Delivers calls' recorded') :
    Delivers (calls ++ calls') (recorded ++ recorded') where
  appends := List.forall_mem_append.mpr ⟨h.appends, h'.appends⟩
  silent := by rw [Metric.total_append, h.silent, h'.silent, Int.add_zero]
  counted := by rw [Metric.total_append, h.counted, h'.counted, total_append, Int.natCast_add]

/-- What is noted of a refused batch is no metric. -/
theorem metrics_noteRefusal (parent : Json) (index total : Nat) (cause : Fault) (j : Journal) :
    (Receipt.noteRefusal parent index total cause j).metrics = j.metrics := by
  unfold Receipt.noteRefusal
  split <;> rfl

/-- A batch that has arrived is counted, where metrics are recorded. -/
theorem metrics_noteArrival {s : Settings} (hs : s.recordMetrics = true) (parent : Json)
    (r : Receipt) (size : Nat) (j : Journal) :
    (Receipt.noteArrival s parent r size j).metrics = j.metrics ++ Receipt.arrivalMetrics size := by
  simp [Receipt.noteArrival, Receipt.measureBatch, Receipt.logBatch, Receipt.arrivalMetrics, hs]

variable {s : Settings} (page : Json) (number : Nat)

/-- **A delivery counts the blocks that were reported**, and nothing else. -/
theorem deliverFrom_adds (hs : s.recordMetrics = true) : ∀ (batches : List (List Json))
    (index : Nat) (r : Receipt) (w : World CallLog), (∀ b ∈ batches, 1 ≤ b.length) →
    ∃ calls recorded w', Adds w calls recorded w' ∧ Delivers calls recorded ∧ ∃ outcome,
      (deliverFrom s (scriptedWriter script c create).blocks page number index r batches).run w
        = (outcome, w')
  | [], index, r, w, _ => ⟨[], [], w, .refl w, ⟨by simp, rfl, rfl⟩, _, rfl⟩
  | batch :: rest, index, r, w, hne => by
      obtain ⟨hbatch, hrest⟩ := List.forall_mem_cons.mp hne
      obtain ⟨outcome, w', hcall, hadds⟩ := exists_run_scriptedCall script (.append page batch) w
      change ((scriptedWriter script c create).blocks.append page batch).run w = _ at hcall
      have hdelivery : isDelivery (.append page batch, outcome) = true := by
        cases batch with
        | nil => exact absurd hbatch (by decide)
        | cons => rfl
      cases outcome with
      | error e =>
        have hnote := Adds.note w' (Receipt.noteRefusal page index number e) []
          ((metrics_noteRefusal ..).trans (List.append_nil _).symm)
        exact ⟨_, _, _, hadds.trans hnote, ⟨by simpa using hdelivery, rfl, rfl⟩, _,
          run_deliverFrom_refused hcall⟩
      | ok answer =>
        cases hids : answer.blockIds with
        | error e =>
          have hnote := Adds.note w' (r.logBatch page batch.length) []
            (List.append_nil _).symm
          have hlost : reported (.append page batch, .ok answer) = 0 := by
            simp [reported, unreported, hids, Except.isOk, Except.toBool]
          exact ⟨_, _, _, hadds.trans hnote, ⟨by simpa using hdelivery, rfl, by simp [hlost]⟩, _,
            run_deliverFrom_unreadable hcall hids⟩
        | ok ids =>
          have hnote := Adds.note w' (Receipt.noteArrival s page r batch.length) _
            (metrics_noteArrival hs page r batch.length w'.journal)
          obtain ⟨calls, recorded, w'', hmore, hdelivers, outcome, hrun⟩ :=
            deliverFrom_adds hs rest (index + 1) (r.add batch.length ids) (w'.note _) hrest
          have hreported : reported (.append page batch, .ok answer) = batch.length := by
            simp [reported, unreported, appended, hids, Except.isOk, Except.toBool]
          have hfirst : Delivers [(.append page batch, .ok answer)]
              (Receipt.arrivalMetrics batch.length) :=
            ⟨by simpa using hdelivery, rfl,
              by simp [hreported, Metric.total, Receipt.arrivalMetrics, Metric.values]⟩
          exact ⟨_, _, w'', (hadds.trans hnote).trans hmore, hfirst.append hdelivers, outcome,
            (run_deliverFrom_arrived hcall hids).trans hrun⟩

/-- A whole delivery counts the blocks that were reported. -/
theorem deliver_adds (hc : c.settings.recordMetrics = true) (blocks : List Json)
    (w : World CallLog) :
    ∃ calls recorded w', Adds w calls recorded w' ∧ Delivers calls recorded ∧ ∃ outcome,
      (deliver c (scriptedWriter script c create).blocks page blocks).run w = (outcome, w') := by
  obtain ⟨calls, recorded, w', hadds, hdelivers, outcome, hrun⟩ :=
    deliverFrom_adds script c create page (batchesOf c.batchSize.toNat blocks).length hc _ 0 .none w
      fun b hb => (length_of_mem_batchesOf c.toNat_batchSize_pos blocks b hb).1
  cases outcome with
  | error e => exact ⟨_, _, _, hadds, hdelivers, _, run_deliver_error hrun⟩
  | ok r =>
    have hnote := Adds.note w' (r.logDone page) [] (List.append_nil _).symm
    refine ⟨calls, recorded, _, ?_, hdelivers, _, run_deliver_ok hrun⟩
    simpa using hadds.trans hnote

/-! ## What is counted -/

/-- **What the counters say of calls**: the blocks that were reported, and the blocks that were
deleted where no deletion failed. -/
structure Counts (calls : CallLog) (recorded : List Metric) : Prop where
  deletions : Metric.total "drive2notion.blocks_deleted_total" recorded
    = if calls.any failedDelete then 0 else total deleted calls
  deliveries : Metric.total "drive2notion.blocks_appended_total" recorded = total reported calls
  sized : ∀ e ∈ calls, unreported e = true → appended e ≠ 0

/-- Calls that leave all blocks alone change no count. -/
theorem Counts.quiet {calls : CallLog} {recorded : List Metric} (h : Counts calls recorded)
    (before behind : CallLog) (hb : ∀ e ∈ before, isQuiet e = true)
    (ha : ∀ e ∈ behind, isQuiet e = true) : Counts (before ++ calls ++ behind) recorded := by
  have hzero {more : CallLog} (hm : ∀ e ∈ more, isQuiet e = true) :
      total deleted more = 0 ∧ total reported more = 0 ∧ more.any failedDelete = false :=
    ⟨total_eq_zero_iff.mpr fun e he => (of_isQuiet (hm e he)).1,
      total_eq_zero_iff.mpr fun e he => (of_isQuiet (hm e he)).2.2.1,
      List.any_eq_false.mpr fun e he => by simp [(of_isQuiet (hm e he)).2.1]⟩
  have hsized {more : CallLog} (hm : ∀ e ∈ more, isQuiet e = true) :
      ∀ e ∈ more, unreported e = true → appended e ≠ 0 := fun e he hlost => by
    simp [(of_isQuiet (hm e he)).2.2.2] at hlost
  obtain ⟨hbd, hbr, hbf⟩ := hzero hb
  obtain ⟨had, har, haf⟩ := hzero ha
  refine ⟨?_, ?_, ?_⟩
  · rw [h.deletions, List.any_append, List.any_append, hbf, haf, Bool.false_or, Bool.or_false,
      total_append, total_append, hbd, had, Nat.zero_add, Nat.add_zero]
  · rw [h.deliveries]
    simp [hbr, har]
  · exact List.forall_mem_append.mpr ⟨List.forall_mem_append.mpr ⟨hsized hb, h.sized⟩, hsized ha⟩

/-- The metric of so many deletions. -/
def deletionMetric (count : Nat) : Metric :=
  .count "drive2notion.blocks_deleted_total" count none

/-- Deletions that all succeeded are counted, and behind them a delivery. -/
theorem Counts.of_deletes {deletes appends : CallLog} {recorded : List Metric}
    (hd : ∀ e ∈ deletes, isDelete e = true) (hall : deletes.any failedDelete = false)
    (h : Delivers appends recorded) :
    Counts (deletes ++ appends) (deletionMetric (total deleted deletes) :: recorded) := by
  have hcount (name : String) :
      Metric.total name (deletionMetric (total deleted deletes) :: recorded)
        = Metric.total name [deletionMetric (total deleted deletes)] + Metric.total name recorded :=
    Metric.total_append name [_] recorded
  have hreported : total reported deletes = 0 :=
    total_eq_zero_iff.mpr fun e he => (of_isDelete (hd e he)).1
  have hdeleted : total deleted appends = 0 :=
    total_eq_zero_iff.mpr fun e he => (of_isDelivery (h.appends e he)).1
  have hkept : appends.any failedDelete = false :=
    List.any_eq_false.mpr fun e he => by simp [(of_isDelivery (h.appends e he)).2.1]
  refine ⟨?_, ?_, List.forall_mem_append.mpr ⟨fun e he hlost => ?_, fun e he => ?_⟩⟩
  · rw [hcount, h.silent, List.any_append, hall, hkept, total_append, hdeleted]
    simp [deletionMetric, Metric.total, Metric.values]
  · rw [hcount, h.counted, total_append, hreported]
    simp [deletionMetric, Metric.total, Metric.values]
  · simp [(of_isDelete (hd e he)).2] at hlost
  · exact (of_isDelivery (h.appends e he)).2.2

/-- Deletions of which one failed are not counted. -/
theorem Counts.of_failed {deletes : CallLog} (hd : ∀ e ∈ deletes, isDelete e = true)
    (hany : deletes.any failedDelete = true) : Counts deletes [] := by
  have hreported : total reported deletes = 0 :=
    total_eq_zero_iff.mpr fun e he => (of_isDelete (hd e he)).1
  refine ⟨by simp [hany], by simp [hreported], fun e he hlost => ?_⟩
  simp [(of_isDelete (hd e he)).2] at hlost

/-- Deleting the children and delivering the blocks. -/
theorem turnOver_adds (hc : c.settings.recordMetrics = true) (blocks ids : List Json)
    (w : World CallLog) :
    ∃ calls recorded w', Adds w calls recorded w' ∧ Counts calls recorded ∧ ∃ outcome,
      ((scriptedWriter script c create).turnOver page blocks ids).run w = (outcome, w') := by
  obtain ⟨deletes, w', hadds, hdeletes, ⟨hok, hall⟩ | ⟨⟨e, herr⟩, hany⟩⟩ :=
    deleteAll_adds script c create ids 0 w
  · have hnote := Adds.note w' (Receipt.measureDeleted c.settings (total deleted deletes))
      [deletionMetric (total deleted deletes)]
      (by simp [Receipt.measureDeleted, deletionMetric, hc])
    obtain ⟨appends, recorded, w'', hmore, hdelivers, outcome, hrun⟩ :=
      deliver_adds script c create page hc blocks (w'.note _)
    refine ⟨deletes ++ appends, _, w'', by simpa using (hadds.trans hnote).trans hmore,
      .of_deletes hdeletes hall hdelivers, ?_⟩
    rw [Nat.zero_add] at hok
    rw [PageWriter.turnOver, Action.run_bind_ok hok, Action.run_bind_ok (Action.run_note _ _)]
    cases outcome with
    | error e => exact ⟨_, Action.run_bind_error hrun⟩
    | ok r => exact ⟨_, Action.run_bind_ok hrun⟩
  · exact ⟨_, _, _, hadds, .of_failed hdeletes hany, _, Action.run_bind_error herr⟩

/-- Listing the children first adds the listing. -/
theorem renew_adds (hc : c.settings.recordMetrics = true) (blocks : List Json)
    (w : World CallLog) :
    ∃ calls recorded w', Adds w calls recorded w' ∧ Counts calls recorded ∧ ∃ outcome,
      ((scriptedWriter script c create).renew page blocks).run w = (outcome, w') := by
  obtain ⟨listed, w', hcall, hadds⟩ := exists_run_scriptedCall script (.children page) w
  change ((scriptedWriter script c create).blocks.children page).run w = _ at hcall
  have hlisting : Counts [(.children page, listed)] [] := ⟨rfl, rfl, by simp [unreported]⟩
  cases listed with
  | error e => exact ⟨_, _, _, hadds, hlisting, _, Action.run_bind_error hcall⟩
  | ok answer =>
    rw [PageWriter.renew, Action.run_bind_ok hcall]
    cases answer.elements with
    | error e => exact ⟨_, _, _, hadds, hlisting, _, rfl⟩
    | ok children =>
      rw [Action.run_bind_ok (Action.run_ofExcept _ _)]
      cases Json.childIds children with
      | error e => exact ⟨_, _, _, hadds, hlisting, _, rfl⟩
      | ok ids =>
        obtain ⟨calls, recorded, w'', hmore, hcounts, hrun⟩ :=
          turnOver_adds script c create page hc blocks ids w'
        have hquiet := hcounts.quiet [(.children page, .ok answer)] [] (by simp [isQuiet]) (by simp)
        rw [Action.run_bind_ok (Action.run_ofExcept _ _)]
        exact ⟨_, _, w'', hadds.trans hmore, by simpa using hquiet, hrun⟩

/-- Writing the properties adds at most one update. -/
theorem mark_adds (properties : Json) (w : World CallLog) :
    ∃ calls w', Adds w calls [] w' ∧ (∀ e ∈ calls, isQuiet e = true) ∧ ∃ outcome,
      ((scriptedWriter script c create).mark page properties).run w = (outcome, w') := by
  rw [PageWriter.mark]
  split
  · obtain ⟨outcome, w', hcall, hadds⟩ := exists_run_scriptedCall script (.update page properties) w
    change ((scriptedWriter script c create).pages.update page properties).run w = _ at hcall
    refine ⟨_, w', hadds, by simp [isQuiet], ?_⟩
    cases outcome with
    | error e => exact ⟨_, Action.run_bind_error hcall⟩
    | ok answer => exact ⟨_, Action.run_bind_ok hcall⟩
  · exact ⟨[], w, .refl w, by simp, _, rfl⟩

/-- **What a replacement adds is counted**: the blocks that were reported, and the blocks that were
deleted where no deletion failed. -/
theorem replace_adds (hc : c.settings.recordMetrics = true) (blocks : List Json)
    (properties : Json) (w : World CallLog) :
    ∃ calls recorded, Adds w calls recorded
        (((scriptedWriter script c create).replace page blocks properties).run w).2 ∧
      Counts calls recorded := by
  obtain ⟨calls, recorded, w', hadds, hcounts, outcome, hrun⟩ :=
    renew_adds script c create page hc blocks w
  rw [PageWriter.replace_eq]
  cases outcome with
  | error e =>
    rw [Action.run_bind_error hrun]
    exact ⟨calls, recorded, hadds, hcounts⟩
  | ok done =>
    obtain ⟨updates, w'', hmore, hquiet, outcome, hmark⟩ :=
      mark_adds script c create page properties w'
    refine ⟨calls ++ updates, recorded ++ [], ?_, ?_⟩
    · rw [Action.run_bind_ok hrun]
      cases outcome with
      | error e =>
        rw [Action.run_bind_error hmark]
        exact hadds.trans hmore
      | ok _ =>
        rw [Action.run_bind_ok hmark]
        exact hadds.trans hmore
    · simpa using hcounts.quiet [] updates (by simp) hquiet

/-- **Where the counters agree with the calls.**  Whatever the calls of a replacement come to, the
deletions are counted exactly where none of them fails, or none succeeds; the appended blocks are
counted exactly where every append that is carried out reports its blocks. -/
theorem counters_agree_iff (hc : c.settings.recordMetrics = true) (blocks : List Json)
    (properties : Json) (j : Journal) (closed : Bool) :
    let run := ((scriptedWriter script c create).replace page blocks properties).run ⟨[], j, closed⟩
    let calls := run.2.peer
    ∃ recorded, run.2.journal.metrics = j.metrics ++ recorded ∧
      (Metric.total "drive2notion.blocks_deleted_total" recorded = total deleted calls ↔
        (∀ e ∈ calls, failedDelete e = false) ∨ ∀ e ∈ calls, deleted e = 0) ∧
      (Metric.total "drive2notion.blocks_appended_total" recorded = total appended calls ↔
        ∀ e ∈ calls, unreported e = false) := by
  intro run calls
  obtain ⟨made, recorded, hadds, hcounts⟩ :=
    replace_adds script c create page hc blocks properties ⟨[], j, closed⟩
  have hcalls : calls = made := hadds.calls
  refine ⟨recorded, hadds.metrics, ?_, ?_⟩
  · rw [hcounts.deletions, hcalls, ← total_eq_zero_iff]
    cases hany : made.any failedDelete with
    | false =>
      have hnone := List.any_eq_false.mp hany
      exact iff_of_true rfl (.inl fun e he => Bool.eq_false_iff.mpr (hnone e he))
    | true =>
      obtain ⟨e, he, hfailed⟩ := List.any_eq_true.mp hany
      have hnot : ¬ ∀ e ∈ made, failedDelete e = false := fun h => by simp [h e he] at hfailed
      rw [if_pos rfl, or_iff_right hnot, eq_comm, Int.natCast_inj]
  · rw [hcounts.deliveries, hcalls, Int.natCast_inj]
    exact total_reported_eq_iff hcounts.sized

end

/-- A script with two children, and what the calls behind the listing come to. -/
def twoChildren (behind : Nat → Except Fault Json) (n : Nat) : Except Fault Json :=
  if n = 0 then .ok (.arr [.obj [("id", .str "a")], .obj [("id", .str "b")]]) else behind n

/-- Settings under which metrics are recorded. -/
def measured : Config :=
  ⟨{ Settings.default with recordMetrics := true }, rfl⟩

/-- Where every call is answered, both children and the block are counted. -/
theorem counters_agree_iff_answered :
    let w := scriptedWriter (twoChildren fun _ => .ok (.obj [])) measured fun _ _ => pure .null
    let run := (w.replace (.str "p") [.null] .null).run (.start [])
    ∃ recorded, run.2.journal.metrics = [] ++ recorded ∧
      Metric.total "drive2notion.blocks_deleted_total" recorded = (2 : Nat) ∧
      Metric.total "drive2notion.blocks_appended_total" recorded = (1 : Nat) := by
  obtain ⟨recorded, hmetrics, hdeleted, happended⟩ :=
    counters_agree_iff (twoChildren fun _ => .ok (.obj [])) measured (fun _ _ => pure .null)
      (.str "p") rfl [.null] .null .empty false
  exact ⟨recorded, hmetrics, hdeleted.mpr (.inl (by decide +kernel)),
    happended.mpr (by decide +kernel)⟩

/-- **Where the second deletion fails, the first is not counted.** -/
theorem deletion_before_failure_not_counted :
    let script := twoChildren fun n =>
      if n = 1 then .ok (.obj []) else .error (.error .server "boom" [] none)
    let w := scriptedWriter script measured fun _ _ => pure .null
    let run := (w.replace (.str "p") [.null] .null).run (.start [])
    total deleted run.2.peer = 1 ∧
      Metric.total "drive2notion.blocks_deleted_total" run.2.journal.metrics = 0 := by
  decide +kernel

end Blocking

end PageSync
