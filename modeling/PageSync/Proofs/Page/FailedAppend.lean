import PageSync.Proofs.Page.Plans

/-!
# Proofs/Page/FailedAppend — how a failed append is reported

An append that fails ends the creation or the replacement of a page.  Where the failure is an error
of the service, the operation ends with the error of the batch, which carries its cause and what
arrived before it.  Any other failure is passed on as it is, so what arrived before it is lost to
the caller.
-/

namespace PageSync

/-- Whether a request that did not succeed failed with an error of the service: its response is no
success, or the network failed. -/
def Outcome.isServiceError : Outcome → Bool
  | .response r => !r.isSuccess
  | .failure kind _ => kind.isNetwork

/-- The fault of an outcome is an error of the service exactly when the failure is one. -/
theorem Outcome.isSome_kind?_of_error {o : Outcome} {c : Call} {e : Fault}
    (h : o.answer c = .error e) : e.kind?.isSome = o.isServiceError := by
  cases o with
  | failure kind message =>
    rw [answer] at h
    rw [isServiceError]
    cases hk : kind.isNetwork with
    | true =>
      rw [hk, if_pos rfl] at h
      obtain rfl := Except.error.inj h
      rfl
    | false =>
      rw [hk, if_neg Bool.false_ne_true] at h
      obtain rfl := Except.error.inj h
      rfl
  | response r =>
    rw [answer, Response.answer] at h
    rw [isServiceError]
    cases hs : r.isSuccess with
    | false =>
      rw [hs, if_neg Bool.false_ne_true] at h
      obtain rfl := Except.error.inj h
      rfl
    | true =>
      rw [hs, if_pos rfl] at h
      split at h
      · exact absurd h (by simp)
      · split at h
        · exact absurd h (by simp)
        · obtain rfl := Except.error.inj h
          rfl

namespace Blocking.Channel

variable {σ α : Type}

/-- **What is reported of a failed append**: an error of the batch with its cause and with the
number of batches and blocks that were appended before it, where the failure is an error of the
service; else the failure itself, which is no error of the service. -/
def ReportsFailedAppend (ch : Channel σ) (w : World σ) (r : Except Fault α × World σ) : Prop :=
  ∃ t : Traffic,
    r.2.journal.requests = w.journal.requests ++ t.map (·.1) ∧
    ch.network.replies (t.map (·.1)) w.peer = t.map (·.2) ∧
    ∀ before q o, t = before ++ [(q, o)] → q.appended?.isSome → o.succeeded = false →
      ∃ path cause, o.answer ⟨"PATCH", path⟩ = .error cause ∧
        (∀ p ∈ before, p.2.succeeded = true) ∧
        if o.isServiceError then
          ∃ message parent total, r.1 = .error (.error .batch message
            [("parent_id", parent), ("failed_batch", .int (appendsOf before).length),
              ("total_batches", total), ("batches_sent", .int (appendsOf before).length),
              ("blocks_appended", .int (appendsOf before).flatten.length)] (some cause))
        else r.1 = .error cause ∧ cause.kind? = none

/-- An operation that follows a plan and accounts for its failed appends reports them. -/
theorem Follows.reportsFailedAppend {ch : Channel σ} {w : World σ} {r : Except Fault α × World σ}
    {steps : List Step} {t : Traffic} {stop : Option Stop} (h : ch.Follows w r steps t stop)
    (ha : ∀ e, r.1 = .error e → Accounts e t stop) : ch.ReportsFailedAppend w r := by
  refine ⟨t, h.exchanged.requests, h.exchanged.outcomes, fun before q o ht hq ho => ?_⟩
  -- since the last request did not succeed, it is what stopped the plan
  have hmem : (q, o) ∈ t := ht ▸ List.mem_append_right _ List.mem_cons_self
  have hfailed : ∃ cause, stop = some (.failed cause) := by
    by_contra hno
    have hall := h.carried.succeeded fun e he => hno ⟨e, he⟩
    rw [hall (q, o) hmem] at ho
    exact absurd ho (by simp)
  obtain ⟨cause, rfl⟩ := hfailed
  obtain ⟨before', q', o', s, ht', -, hs, hcause⟩ := h.carried.exists_failed
  obtain ⟨rfl, hlast⟩ := List.append_inj' (ht.symm.trans ht') rfl
  obtain ⟨rfl, rfl⟩ := Prod.mk.inj (List.singleton_inj.mp hlast)
  have hpatch : ∃ path, s.call = ⟨"PATCH", path⟩ := by
    rw [Step.appended?_of_request hs] at hq
    cases s with
    | append parent batch => exact ⟨_, rfl⟩
    | _ => exact absurd hq Bool.false_ne_true
  obtain ⟨path, hpath⟩ := hpatch
  rw [hpath] at hcause
  have hbefore : ∀ p ∈ before, p.2.succeeded = true := by
    have hdrop := h.carried.succeeded_dropLast
    rwa [ht, List.dropLast_concat] at hdrop
  obtain ⟨e, he⟩ : ∃ e, r.1 = .error e := by
    cases hr : r.1 with
    | error e => exact ⟨e, rfl⟩
    | ok x => exact absurd (h.stop_eq_none hr) (by simp)
  obtain ⟨receipt, parent, total, hsent, hblocks, hfault⟩ := ha e he cause before q o rfl ht hq
  refine ⟨path, cause, hcause, hbefore, ?_⟩
  rw [← Outcome.isSome_kind?_of_error hcause]
  cases hkind : cause.kind? with
  | none =>
    rw [Option.isSome_none, if_neg Bool.false_ne_true]
    rw [Receipt.interruption_of_no_kind hkind] at hfault
    exact ⟨he.trans (congrArg _ hfault), rfl⟩
  | some kind =>
    rw [Option.isSome_some, if_pos rfl]
    rw [Receipt.interruption_of_kind hkind] at hfault
    obtain ⟨message, hmessage⟩ :=
      Receipt.exists_failed_eq hsent hblocks parent (appendsOf before).length total cause
    exact ⟨message, parent, _, he.trans (congrArg _ (hfault.trans hmessage))⟩

/-- **A failed append is reported with its progress exactly where the failure is an error of the
service.**  Whatever the outcomes are: where the last request of a creation or a replacement is an
append that did not succeed, all requests before it did, and the operation ends with the error of
the batch, its cause, and the number of batches and blocks before it, if the response is no success
or the network failed; else it ends with the failure as it is. -/
theorem failed_append_reported (ch : Channel σ) (w : World σ) :
    (∀ (database : Json) (title markdown : String) (key modified : Option String) (extra : Fields),
      ch.ReportsFailedAppend w
        ((ch.createPageFrom database title markdown key modified extra).run w)) ∧
    (∀ (page : Json) (markdown : String) (modified : Option String),
      ch.ReportsFailedAppend w ((ch.replacePageFrom page markdown modified).run w)) := by
  refine ⟨fun database title markdown key modified extra => ?_, fun page markdown modified => ?_⟩
  · obtain ⟨t, stop, h, -, ha⟩ :=
      ch.follows_createPageFrom database title markdown key modified extra w
    exact h.reportsFailedAppend ha
  · obtain ⟨t, stop, h, -, ha⟩ := ch.follows_replacePageFrom page markdown modified w
    exact h.reportsFailedAppend ha

/-- **A broken protocol is passed on as it is**: the append failed, but no error of a batch says
so. -/
theorem broken_protocol_is_not_reported :
    let ch := scripted
    let broken : Outcome := .failure .remoteProtocolError "boom"
    let w := World.start (Network.Script.mk [none, some broken] ())
    let run := (ch.replacePageFrom (.str "page-9") "hello" none).run w
    let sent := run.2.journal.requests
    (sent.getLast?.bind (·.appended?)).isSome = true ∧
      (ch.network.replies sent w.peer).getLast? = some broken ∧
      ∃ e, run.1 = .error e ∧ e.kind? ≠ some .batch := by
  intro ch broken w run sent
  have hrun : (sent.getLast?.bind (·.appended?)).isSome = true ∧
      (ch.network.replies sent w.peer).getLast? = some broken ∧
      (match run.1 with
        | .ok _ => false
        | .error e => e.kind?.isNone) = true := by
    decide +kernel
  refine ⟨hrun.1, hrun.2.1, ?_⟩
  have hfails := hrun.2.2
  cases hr : run.1 with
  | ok r =>
    rw [hr] at hfails
    exact absurd hfails Bool.false_ne_true
  | error e =>
    rw [hr] at hfails
    exact ⟨e, rfl, fun he => by simp [he] at hfails⟩

end Blocking.Channel

end PageSync
