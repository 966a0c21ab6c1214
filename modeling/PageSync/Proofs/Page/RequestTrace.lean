import PageSync.Proofs.Page.Plans

/-!
# Proofs/Page/RequestTrace — the requests of a replacement

The requests of a replacement are the beginning of one trace: all listing, then the deletions, then
the batches, then the marker.  Nothing is sent again, and nothing after a request that did not
succeed.
-/

namespace PageSync

/-! ## What a carried plan shows -/

namespace Carried

variable {c : Connection} {steps : List Step} {t : Traffic} {stop : Option Stop}

/-- The batches in the traffic are those of the steps that were carried out. -/
theorem appendsOf_eq (h : Carried c steps t stop) :
    appendsOf t = (steps.take t.length).filterMap (·.appended?) := by
  have hm := congrArg (List.filterMap id) (h.map_eq fun _ _ hq => Step.appended?_of_request hq)
  rwa [List.filterMap_map, List.filterMap_map] at hm

/-- The deletions in the traffic are those of the steps that were carried out. -/
theorem countP_delete_eq (h : Carried c steps t stop) :
    t.countP (fun p => p.1.method = "DELETE") = (steps.take t.length).countP (·.isDelete) := by
  have hm := congrArg (List.countP id) (h.map_eq fun _ _ hq => Step.isDelete_of_request hq)
  rwa [List.countP_map, List.countP_map] at hm

end Carried

section

variable (page : Json) (pages : List Page) (batches : List (List Json)) {last : List Step}

/-- What a replacement appends are its batches, once listing has ended. -/
theorem filterMap_appended?_replacePlan (hlast : ∀ s ∈ last, s.appended? = none) :
    (replacePlan page pages batches last).filterMap (·.appended?)
      = if listingEnds pages then batches else [] := by
  have hlist : (Step.listing page none pages).filterMap (·.appended?) = [] :=
    List.filterMap_eq_nil_iff.mpr (Blocking.Channel.appended?_listing page none pages)
  rw [replacePlan, List.filterMap_append, hlist, List.nil_append]
  split
  · rw [List.filterMap_append, List.filterMap_append, List.filterMap_eq_nil_iff.mpr hlast,
      List.filterMap_map, List.filterMap_map]
    simp [Function.comp_def, Step.appended?]
  · rfl

/-- What a replacement deletes is what was listed, once listing has ended. -/
theorem countP_isDelete_replacePlan (hlast : ∀ s ∈ last, s.isDelete = false) :
    (replacePlan page pages batches last).countP (·.isDelete)
      = if listingEnds pages then (listedIds pages).length else 0 := by
  have hlist : (Step.listing page none pages).countP (·.isDelete) = 0 := by
    rw [Step.listing, List.countP_map]
    exact List.countP_eq_zero.mpr fun _ _ => Bool.false_ne_true
  have hzero : last.countP (·.isDelete) = 0 :=
    List.countP_eq_zero.mpr fun s hs => by rw [hlast s hs]; exact Bool.false_ne_true
  rw [replacePlan, List.countP_append, hlist, Nat.zero_add]
  split
  · rw [List.countP_append, List.countP_append, hzero, List.countP_map, List.countP_map]
    simp [Function.comp_def, Step.isDelete]
  · rfl

end

/-! ## The trace -/

namespace Blocking.Channel

variable {σ : Type}

/-- The steps that write the marker of a replacement, if a time was given. -/
theorem markSteps_marker (page : Json) (s : Settings) (modified : Option String) :
    markSteps page ((s.markerProperties modified).elim .null .obj)
      = (modified.map fun m =>
          Step.update page (.obj [(s.modifiedProperty, Property.date m)])).toList := by
  cases modified <;> rfl

/-- **The requests of a replacement are the beginning of one trace**: all listing, then a deletion
for each child that was listed with an identifier, then the batches, then the marker, if a time was
given.  Every request but the last one succeeded.  The replacement returns when it was sent the
whole trace and every request succeeded, as long as what was listed and what answered an append are
lists of objects; it fails where the last request did not succeed, where the next one cannot be
built, or where such an answer is no list of objects. -/
theorem replace_request_trace (ch : Channel σ) (page : Json) (markdown : String)
    (modified : Option String) (w : World σ) :
    let c := ch.connection
    let size := c.config.batchSize.toNat
    let blocks := (Conversion.ofMarkdown markdown).blocks.map Block.toJson
    let run := (ch.replacePageFrom page markdown modified).run w
    ∃ t : Traffic,
      run.2.journal.requests = w.journal.requests ++ t.map (·.1) ∧
      ch.network.replies (t.map (·.1)) w.peer = t.map (·.2) ∧
      let pages := listedPages (t.map (·.2))
      let plan := Step.listing page none pages ++
        if listingEnds pages then
          (listedIds pages).map .delete ++ (batchesOf size blocks).map (.append page) ++
            (modified.map fun m =>
              Step.update page (.obj [(c.settings.modifiedProperty, Property.date m)])).toList
        else []
      (t.length ≤ plan.length ∧
        (plan.take t.length).map (·.request c) = t.map fun p => .ok p.1) ∧
      (∀ p ∈ t.dropLast, p.2.succeeded = true) ∧
      (∀ body ∈ appendsOf t, 1 ≤ body.length ∧ body.length ≤ size ∧ size ≤ 100) ∧
      (listingEnds pages = true → t.length = plan.length → (appendsOf t).flatten = blocks) ∧
      (∀ r, run.1 = .ok r →
        listingEnds pages = true ∧ t.length = plan.length ∧ (∀ p ∈ t, p.2.succeeded = true) ∧
        r.deleted = (t.countP fun p => p.1.method = "DELETE") ∧
        r.appended = (appendsOf t).flatten.length) ∧
      (∀ e, run.1 = .error e →
        (∃ p ∈ t.getLast?, p.2.succeeded = false) ∨
        (∃ s ∈ plan[t.length]?, ∃ e', s.request c = .error e') ∨ ¬ t.WellFormed) ∧
      (t.WellFormed →
        ((∃ r, run.1 = .ok r) ↔ t.length = plan.length ∧ ∀ p ∈ t, p.2.succeeded = true)) := by
  obtain ⟨t, stop, h, hok, -⟩ := ch.follows_replacePageFrom page markdown modified w
  rw [markSteps_marker] at h
  intro c size blocks run
  -- what is said of the run is said of any result that follows the plan
  have hfollows : ch.Follows w run _ t stop := h
  have hreturned : ∀ r, run.1 = .ok r → _ := hok
  clear h hok
  clear_value run
  refine ⟨t, hfollows.exchanged.requests, hfollows.exchanged.outcomes, ?_⟩
  intro pages plan
  replace hfollows : ch.Follows w run plan t stop := hfollows
  have hc : Carried c plan t stop := hfollows.carried
  have hsize : 0 < size := c.config.toNat_batchSize_pos
  have hlast : ∀ s ∈ (modified.map fun m =>
      Step.update page (.obj [(c.settings.modifiedProperty, Property.date m)])).toList,
      s.appended? = none ∧ s.isDelete = false := by
    intro s hs
    obtain ⟨m, -, rfl⟩ := Option.map_eq_some_iff.mp (Option.mem_toList.mp hs)
    exact ⟨rfl, rfl⟩
  -- what the whole plan appends and deletes
  have happends : plan.filterMap (·.appended?)
      = if listingEnds pages then batchesOf size blocks else [] :=
    filterMap_appended?_replacePlan page pages _ fun s hs => (hlast s hs).1
  have hdeletes : plan.countP (·.isDelete)
      = if listingEnds pages then (listedIds pages).length else 0 :=
    countP_isDelete_replacePlan page pages _ fun s hs => (hlast s hs).2
  have hblocks : listingEnds pages = true → t.length = plan.length →
      (appendsOf t).flatten = blocks := by
    intro hends hlen
    rw [hc.appendsOf_eq, hlen, List.take_length, happends, if_pos hends, flatten_batchesOf hsize]
  refine ⟨hc.requests, hc.succeeded_dropLast, fun body hbody => ?_, hblocks, fun r hr => ?_,
    fun e he => hfollows.exists_reason he, hfollows.exists_ok_iff⟩
  · have hmem : body ∈ plan.filterMap (·.appended?) := by
      rw [hc.appendsOf_eq] at hbody
      exact ((List.take_sublist _ _).filterMap _).subset hbody
    rw [happends] at hmem
    split at hmem
    · obtain ⟨hpos, hle⟩ := length_of_mem_batchesOf hsize blocks body hmem
      exact ⟨hpos, hle, c.config.toNat_batchSize_le⟩
    · exact absurd hmem List.not_mem_nil
  · obtain ⟨hends, hdeleted, happended⟩ := hreturned r hr
    obtain ⟨hlen, hall⟩ := hfollows.whole hr
    refine ⟨hends, hlen, hall, ?_, ?_⟩
    · rw [hc.countP_delete_eq, hlen, List.take_length, hdeletes, if_pos hends]
      exact hdeleted
    · rw [hblocks hends hlen]
      exact happended

/-- **A replacement may fail although every request of its trace succeeded**: an append may be
answered by JSON that is no object.  Here nothing is listed, and there is one batch. -/
theorem replace_fails_without_failed_request :
    let ch := scripted
    let w := World.start (Network.Script.mk [none, some (.response ⟨200, [], "5"⟩)] ())
    let blocks := (Conversion.ofMarkdown "hello").blocks.map Block.toJson
    let run := (ch.replacePageFrom (.str "page-9") "hello" none).run w
    let sent := run.2.journal.requests
    let plan := [Step.list (.str "page-9") none, .append (.str "page-9") blocks]
    sent.map some = plan.map (fun s => (s.request ch.connection).toOption) ∧
      (∀ o ∈ ch.network.replies sent w.peer, o.succeeded = true) ∧ ¬ ∃ r, run.1 = .ok r := by
  intro ch w blocks run sent plan
  have hrun : sent.map some = plan.map (fun s => (s.request ch.connection).toOption) ∧
      (∀ o ∈ ch.network.replies sent w.peer, o.succeeded = true) ∧ run.1.isOk = false := by
    decide +kernel
  refine ⟨hrun.1, hrun.2.1, ?_⟩
  rintro ⟨r, hr⟩
  have hfails := hrun.2.2
  rw [hr] at hfails
  exact absurd hfails (by simp [Except.isOk, Except.toBool])

end Blocking.Channel

end PageSync
