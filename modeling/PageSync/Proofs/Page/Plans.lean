import PageSync.Blocking.Session
import PageSync.Proofs.Batches
import PageSync.Proofs.Delivery.Batch
import PageSync.Proofs.Page.Stages
import PageSync.Proofs.Service.Listing

/-!
# Proofs/Page/Plans — replacing and creating pages follow their plans

The plan of a replacement is read off the pages that were listed: all listing, then the deletions,
then the batches, then the properties.  `follows_replace` says that a replacement follows it,
counts what it did, and ends with the account of what arrived when an append fails;
`follows_create` says so of the creation of a page.
-/

namespace PageSync

/-! ## What was appended -/

/-- The batches that requests have appended, or tried to append, in order. -/
def appendsOf (t : Traffic) : List (List Json) :=
  t.filterMap (·.1.appended?)

@[simp] theorem appendsOf_append (t t' : Traffic) :
    appendsOf (t ++ t') = appendsOf t ++ appendsOf t' :=
  List.filterMap_append

theorem appendsOf_eq_nil {t : Traffic} (h : ∀ p ∈ t, p.1.appended? = none) :
    appendsOf t = [] :=
  List.filterMap_eq_nil_iff.mpr h

/-- Steps that append nothing leave requests that append nothing. -/
theorem Carried.appended?_eq_none {c : Connection} {steps : List Step} {t : Traffic}
    {stop : Option Stop} (h : Carried c steps t stop) (hs : ∀ s ∈ steps, s.appended? = none) :
    ∀ p ∈ t, p.1.appended? = none := by
  intro p hp
  obtain ⟨s, hm, hq⟩ := h.exists_step p hp
  exact (Step.appended?_of_request hq).trans (hs s hm)

/-- **A fault accounts for a failed append**: where the last request was an append that failed, the
fault is what the account of the appends before it makes of the cause. -/
def Accounts (e : Fault) (t : Traffic) (stop : Option Stop) : Prop :=
  ∀ cause t' q o, stop = some (.failed cause) → t = t' ++ [(q, o)] → q.appended?.isSome →
    ∃ (r : Receipt) (parent : Json) (total : Nat), r.batchesSent = (appendsOf t').length ∧
      r.blocksAppended = (appendsOf t').flatten.length ∧
      e = r.interruption parent (appendsOf t').length total cause

namespace Accounts

variable {e : Fault} {t t' : Traffic} {stop : Option Stop}

/-- Where the last requests append nothing, there is nothing to account for. -/
theorem of_tail (t : Traffic) (h : ∀ p ∈ t', p.1.appended? = none)
    (hne : (∃ cause, stop = some (.failed cause)) → t' ≠ []) : Accounts e (t ++ t') stop := by
  intro cause t'' q o hstop ht hq
  rcases List.eq_nil_or_concat t' with rfl | ⟨l, p, rfl⟩
  · exact absurd rfl (hne ⟨cause, hstop⟩)
  · rw [List.concat_eq_append, ← List.append_assoc] at ht
    obtain ⟨-, hp⟩ := List.append_inj' ht rfl
    obtain rfl := List.singleton_inj.mp hp
    rw [h (q, o) (by simp)] at hq
    exact absurd hq (by simp)

/-- Requests that append nothing may come before. -/
theorem after (ht : ∀ p ∈ t, p.1.appended? = none) (h : Accounts e t' stop) :
    Accounts e (t ++ t') stop := by
  rcases List.eq_nil_or_concat t' with rfl | ⟨l, p, rfl⟩
  · intro cause t'' q o hstop heq hq
    rw [List.append_nil] at heq
    rw [ht (q, o) (heq ▸ by simp)] at hq
    exact absurd hq (by simp)
  · intro cause t'' q o hstop heq hq
    rw [List.concat_eq_append, ← List.append_assoc] at heq
    obtain ⟨rfl, hp⟩ := List.append_inj' heq rfl
    obtain rfl := List.singleton_inj.mp hp
    rw [appendsOf_append, appendsOf_eq_nil ht, List.nil_append]
    exact h cause l q o hstop (List.concat_eq_append ..) hq

end Accounts

/-- A plan that appends nothing leaves nothing to account for. -/
theorem Carried.accounts {c : Connection} {steps : List Step} {t : Traffic} {stop : Option Stop}
    (h : Carried c steps t stop) (hs : ∀ s ∈ steps, s.appended? = none) (before : Traffic)
    (e : Fault) : Accounts e (before ++ t) stop := by
  refine Accounts.of_tail before (h.appended?_eq_none hs) ?_
  rintro ⟨cause, rfl⟩ rfl
  obtain ⟨t', q, o, -, ht, -⟩ := h.exists_failed
  exact absurd ht (by simp)

/-! ## The identifiers that were listed -/

/-- The identifiers that pages list, where they say something. -/
def listedIds (pages : List Page) : List Json :=
  (listedItems pages).filterMap fun item => (item.get? "id").filter Json.truthy

/-- Children that can be read are objects, and are read for their identifiers. -/
theorem Json.childIds_eq_ok : ∀ {items ids : List Json}, childIds items = .ok ids →
    ids = items.filterMap fun item => (item.get? "id").filter truthy
  | [], ids, h => (Except.ok.inj h).symm
  | .obj fields :: rest, ids, h => by
      cases hr : childIds rest with
      | error e =>
        rw [childIds, hr] at h
        exact absurd h (by simp [find, bind, Except.bind])
      | ok more =>
        rw [childIds, hr] at h
        obtain rfl := Except.ok.inj h
        have hid : (obj fields).get? "id" = fields.lookup "id" := rfl
        rw [List.filterMap_cons, childIds_eq_ok hr, hid]
        cases (fields.lookup "id").filter truthy <;> rfl

/-- Children that are objects can be read. -/
theorem Json.childIds_isOk : ∀ {items : List Json}, (∀ item ∈ items, ∃ fields, item = .obj fields) →
    ∃ ids, childIds items = .ok ids
  | [], _ => ⟨[], rfl⟩
  | item :: rest, h => by
      obtain ⟨fields, rfl⟩ := h item List.mem_cons_self
      obtain ⟨ids, hids⟩ := childIds_isOk fun i hi => h i (List.mem_cons_of_mem _ hi)
      rw [childIds, hids]
      exact ⟨_, rfl⟩

/-- An entry that has to be there is there as a value. -/
theorem Json.entry_toOption (j : Json) (name : String) : (j.entry name).toOption = j.get? name := by
  cases j with
  | obj fields =>
    change _ = fields.lookup name
    rw [entry]
    cases fields.lookup name <;> rfl
  | _ => rfl

/-- **The plan of a replacement** of the content of a page, where some pages were listed: all
listing, and once it has ended the deletions, the batches, and what is to come last. -/
def replacePlan (page : Json) (pages : List Page) (batches : List (List Json)) (last : List Step) :
    List Step :=
  Step.listing page none pages ++
    if listingEnds pages then
      (listedIds pages).map .delete ++ batches.map (.append page) ++ last
    else []

namespace Blocking.Channel

variable {σ : Type} (ch : Channel σ)

/-! ## Deleting -/

/-- **Deleting blocks** is one step for each. -/
theorem carries_deleteAll : ∀ (ids : List Json) (count : Nat) (w : World σ),
    ch.Carries w ((ch.writer.deleteAll count ids).run w) (ids.map .delete)
      fun n => n = count + ids.length
  | [], count, w => ⟨[], none, Follows.of_ok count w, fun _ hx => (Except.ok.inj hx).symm⟩
  | id :: rest, count, w => by
      rw [PageWriter.deleteAll, List.map_cons]
      refine (ch.carries_call (.delete id) w).bind fun _ w' _ => ?_
      obtain ⟨t, stop, h, hn⟩ := carries_deleteAll rest (count + 1) w'
      refine ⟨t, stop, h, fun n hr => ?_⟩
      rw [hn n hr, List.length_cons]
      omega

/-! ## Delivering -/

/-- **Delivering batches** is one step for each, and a fault accounts for a failed one. -/
theorem follows_deliverFrom (s : Settings) (parent : Json) (total : Nat) :
    ∀ (batches : List (List Json)) (index : Nat) (r : Receipt) (w : World σ),
    let run := (deliverFrom s ch.blocksApi parent total index r batches).run w
    ∃ t stop, ch.Follows w run (batches.map (.append parent)) t stop ∧
      (∀ x, run.1 = .ok x → x.batchesSent = r.batchesSent + batches.length ∧
        x.blocksAppended = r.blocksAppended + batches.flatten.length) ∧
      (∀ cause t' p, stop = some (.failed cause) → t = t' ++ [p] →
        ∃ x : Receipt, x.batchesSent = r.batchesSent + (appendsOf t').length ∧
          x.blocksAppended = r.blocksAppended + (appendsOf t').flatten.length ∧
          run.1 = .error (x.interruption parent (index + (appendsOf t').length) total cause))
  | [], index, r, w => by
      refine ⟨[], none, Follows.of_ok r w, fun x hx => ?_, nofun⟩
      obtain rfl := Except.ok.inj hx
      exact ⟨rfl, rfl⟩
  | batch :: rest, index, r, w => by
      intro run
      rw [List.map_cons]
      rcases ch.call_cases (.append parent batch) w with ⟨e, hcall, h⟩ |
        ⟨q, o, e, w', ho, hcall, h⟩ | ⟨q, o, a, w', hq, ho, hcall, h, -⟩
      · have hrun : run = _ := run_deliverFrom_refused hcall
        rw [hcall] at h
        rw [hrun]
        refine ⟨[], some (.refused e), ?_, nofun, nofun⟩
        exact (h.stopped _ _).note (Receipt.requests_noteRefusal _ _ _ _ _)
      · have hrun : run = _ := run_deliverFrom_refused hcall
        rw [hcall] at h
        rw [hrun]
        refine ⟨[(q, o)], some (.failed e), ?_, nofun, fun cause t' p hstop ht => ⟨r, ?_⟩⟩
        · exact (h.stopped _ _).note (Receipt.requests_noteRefusal _ _ _ _ _)
        · have hnil : ([] : Traffic) ++ [(q, o)] = t' ++ [p] := ht
          obtain ⟨rfl, -⟩ := List.append_inj' hnil rfl
          obtain rfl : e = cause := by simpa using hstop
          exact ⟨rfl, rfl, rfl⟩
      · have happended : q.appended? = some batch := Step.appended?_of_request hq
        rw [hcall] at h
        cases hids : a.blockIds with
        | error e =>
          have hrun : run = _ := run_deliverFrom_unreadable hcall hids
          have hbad : ¬ Traffic.WellFormed [(q, o)] := fun hw => by
            obtain ⟨l, rfl⟩ := (hw (q, o) List.mem_cons_self).1 (Step.wantsList_of_request hq)
              a (Outcome.value?_of_ok ho)
            rw [l.blockIds_toJson] at hids
            exact absurd hids (by simp)
          rw [hrun]
          refine ⟨[(q, o)], some (.unreadable e), ?_, nofun, nofun⟩
          exact (h.unreadable hbad e _).note (Receipt.requests_logBatch _ _ _ _)
        | ok ids =>
          have hrun : run = _ := run_deliverFrom_arrived hcall hids
          obtain ⟨t, stop, hrest, hok, herr⟩ := follows_deliverFrom s parent total rest (index + 1)
            (r.add batch.length ids) (w'.note (r.noteArrival s parent batch.length))
          rw [hrun]
          have hnote := h.note (Receipt.requests_noteArrival s parent r batch.length _)
          refine ⟨(q, o) :: t, stop, hnote.trans hrest, fun x hx => ?_,
            fun cause t' p hstop ht => ?_⟩
          · obtain ⟨hsent, hblocks⟩ := hok x hx
            rw [hsent, hblocks, List.flatten_cons, List.length_append, List.length_cons,
              Receipt.batchesSent_add, Receipt.blocksAppended_add]
            omega
          · -- the failed append is one of the rest, since this one was answered
            obtain ⟨l, q', o', -, rfl, -⟩ := (hstop ▸ hrest.carried).exists_failed
            rw [← List.cons_append] at ht
            obtain ⟨rfl, -⟩ := List.append_inj' ht rfl
            obtain ⟨x, hsent, hblocks, hfault⟩ := herr cause l (q', o') hstop rfl
            have hl : appendsOf ((q, o) :: l) = batch :: appendsOf l :=
              List.filterMap_cons_some happended
            refine ⟨x, ?_, ?_, ?_⟩
            · rw [hsent, hl, List.length_cons, Receipt.batchesSent_add]
              omega
            · rw [hblocks, hl, List.flatten_cons, List.length_append, Receipt.blocksAppended_add]
              omega
            · rw [hfault, hl, List.length_cons, Nat.add_assoc, Nat.add_comm 1]

/-- **Delivering blocks** is one step for each batch, and a fault accounts for a failed one. -/
theorem follows_deliver (parent : Json) (blocks : List Json) (w : World σ) :
    let run := (deliver ch.connection.config ch.blocksApi parent blocks).run w
    let size := ch.connection.config.batchSize.toNat
    ∃ t stop, ch.Follows w run ((batchesOf size blocks).map (.append parent)) t stop ∧
      (∀ x, run.1 = .ok x → x.batchesSent = (batchesOf size blocks).length ∧
        x.blocksAppended = blocks.length) ∧
      (∀ e, run.1 = .error e → Accounts e t stop) := by
  intro run size
  obtain ⟨t, stop, h, hok, herr⟩ := ch.follows_deliverFrom ch.settings parent
    (batchesOf size blocks).length (batchesOf size blocks) 0 .none w
  rw [flatten_batchesOf ch.connection.config.toNat_batchSize_pos] at hok
  cases hr : (deliverFrom ch.settings ch.blocksApi parent (batchesOf size blocks).length 0 .none
      (batchesOf size blocks)).run w with
  | mk result w' =>
    rw [hr] at h hok herr
    cases result with
    | ok x =>
      have hrun : run = _ := run_deliver_ok hr
      rw [hrun]
      refine ⟨t, stop, h.note rfl, fun x' hx' => ?_, fun e he => absurd he (by simp)⟩
      obtain rfl := Except.ok.inj hx'
      obtain ⟨hsent, hblocks⟩ := hok x rfl
      exact ⟨hsent.trans (Nat.zero_add _), hblocks.trans (Nat.zero_add _)⟩
    | error e =>
      have hrun : run = _ := run_deliver_error hr
      rw [hrun]
      refine ⟨t, stop, h, nofun, fun e' he cause t' q o hstop ht _ => ?_⟩
      obtain rfl := Except.error.inj he
      obtain ⟨x, hsent, hblocks, hfault⟩ := herr cause t' (q, o) hstop ht
      rw [Nat.zero_add] at hfault
      exact ⟨x, parent, _, hsent.trans (Nat.zero_add _), hblocks.trans (Nat.zero_add _),
        Except.error.inj hfault⟩

/-! ## Replacing -/

/-- **Deleting blocks and delivering others** follows the steps of both. -/
theorem follows_turnOver (page : Json) (blocks ids : List Json) (w : World σ) :
    let run := (ch.writer.turnOver page blocks ids).run w
    let size := ch.connection.config.batchSize.toNat
    ∃ t stop,
      ch.Follows w run (ids.map .delete ++ (batchesOf size blocks).map (.append page)) t stop ∧
      (∀ x, run.1 = .ok x → x.1 = ids.length ∧ x.2.blocksAppended = blocks.length) ∧
      (∀ e, run.1 = .error e → Accounts e t stop) := by
  intro run size
  have hdeletes : ∀ s ∈ ids.map Step.delete, s.appended? = none := by
    intro s hs
    obtain ⟨id, -, rfl⟩ := List.mem_map.mp hs
    rfl
  obtain ⟨t, stop, h, hn⟩ := ch.carries_deleteAll ids 0 w
  cases hr : (ch.writer.deleteAll 0 ids).run w with
  | mk result w' =>
    rw [hr] at h hn
    cases result with
    | error e =>
      have hrun : run = _ := Action.run_bind_error hr
      rw [hrun]
      refine ⟨t, stop, h.stopped e _, nofun, fun e' _ => ?_⟩
      exact h.carried.accounts hdeletes [] e'
    | ok n =>
      let noted := w'.note (Receipt.measureDeleted ch.settings n)
      have hrun : run = _ :=
        (Action.run_bind_ok hr).trans (Action.run_bind_ok (Action.run_note _ w'))
      obtain ⟨t', stop', h', hok, herr⟩ := ch.follows_deliver page blocks noted
      have hnote : ch.Follows w (.ok n, noted) (ids.map .delete) t stop :=
        h.note (Journal.requests_measure _ _ _)
      have hquiet := h.carried.appended?_eq_none hdeletes
      cases hd : (deliver ch.connection.config ch.blocksApi page blocks).run noted with
      | mk result w'' =>
        rw [hd] at h' hok herr
        cases result with
        | error e =>
          have hrun' : run = (.error e, w'') := hrun.trans (Action.run_bind_error hd)
          rw [hrun']
          refine ⟨t ++ t', stop', (hnote.trans h').fails e, nofun, fun e' he => ?_⟩
          obtain rfl := Except.error.inj he
          exact (herr e rfl).after hquiet
        | ok receipt =>
          have hrun' : run = (.ok (n, receipt), w'') := hrun.trans (Action.run_bind_ok hd)
          rw [hrun']
          refine ⟨t ++ t', stop', (hnote.trans h').yields _, fun x hx => ?_,
            fun e he => absurd he (by simp)⟩
          obtain rfl := Except.ok.inj hx
          exact ⟨(hn n rfl).trans (Nat.zero_add _), (hok receipt rfl).2⟩

/-- Listing appends nothing. -/
theorem appended?_listing (page : Json) (cursor : Option Json) (pages : List Page) :
    ∀ s ∈ Step.listing page cursor pages, s.appended? = none := by
  intro s hs
  obtain ⟨c, -, rfl⟩ := List.mem_map.mp hs
  rfl

/-- Listing needs answers that list objects. -/
theorem wantsList_listing (page : Json) (cursor : Option Json) (pages : List Page) :
    ∀ s ∈ Step.listing page cursor pages, s.wantsList = true := by
  intro s hs
  obtain ⟨c, -, rfl⟩ := List.mem_map.mp hs
  rfl

/-- Children that were listed cannot be read only where an answer was not well-formed. -/
theorem not_wellFormed_of_childIds {page : Json} {t : Traffic} {stop : Option Stop} {e : Fault}
    (h : Carried ch.connection (Step.listing page none (listedPages (t.map (·.2)))) t stop)
    (he : Json.childIds (listedItems (listedPages (t.map (·.2)))) = .error e) :
    ¬ t.WellFormed := by
  intro hw
  have hlists : ∀ o ∈ t.map (·.2), o.ListsObjects := by
    intro o ho
    obtain ⟨p, hp, rfl⟩ := List.mem_map.mp ho
    obtain ⟨s, hs, hq⟩ := h.exists_step p hp
    exact (hw p hp).1 ((Step.wantsList_of_request hq).trans (wantsList_listing page none _ s hs))
  obtain ⟨ids, hids⟩ := Json.childIds_isOk (exists_fields_of_mem_listed hlists)
  rw [hids] at he
  exact absurd he (by simp)

/-- Renewing the content begins with the children that are listed. -/
theorem renew_eq (page : Json) (blocks : List Json) :
    ch.writer.renew page blocks = (do
      let items ← ch.children page
      let ids ← Action.ofExcept (Json.childIds items)
      ch.writer.turnOver page blocks ids) := by
  change ((ch.children page >>= fun items => pure (Json.arr items)) >>= fun answer =>
    Action.ofExcept answer.elements >>= _) = _
  rw [Action.bind_assoc]
  rfl

/-- **Renewing the content of a page** lists it, deletes what is listed and delivers the blocks. -/
theorem follows_renew (page : Json) (blocks : List Json) (w : World σ) :
    let run := (ch.writer.renew page blocks).run w
    let size := ch.connection.config.batchSize.toNat
    ∃ t stop,
      ch.Follows w run (replacePlan page (listedPages (t.map (·.2))) (batchesOf size blocks) [])
        t stop ∧
      (∀ x, run.1 = .ok x → listingEnds (listedPages (t.map (·.2))) = true ∧
        x.1 = (listedIds (listedPages (t.map (·.2)))).length ∧
        x.2.blocksAppended = blocks.length) ∧
      (∀ e, run.1 = .error e → Accounts e t stop) := by
  intro run size
  obtain ⟨t, stop, h, hok, herr⟩ := ch.follows_children page w
  have hquiet := h.carried.appended?_eq_none (appended?_listing page none _)
  cases hr : (ch.children page).run w with
  | mk result w' =>
    rw [hr] at h hok herr
    cases result with
    | error e =>
      have hrun : run = (.error e, w') := by
        change (ch.writer.renew page blocks).run w = _
        rw [renew_eq, Action.run_bind_error hr]
      rw [hrun]
      refine ⟨t, stop, ?_, nofun, fun e' _ => ?_⟩
      · rw [replacePlan, herr e rfl]
        exact h.stopped e []
      · exact h.carried.accounts (appended?_listing page none _) [] e'
    | ok items =>
      obtain ⟨hends, rfl⟩ := hok items rfl
      cases hids : Json.childIds (listedItems (listedPages (t.map (·.2)))) with
      | error e =>
        have hrun : run = (.error e, w') := by
          change (ch.writer.renew page blocks).run w = _
          rw [renew_eq, Action.run_bind_ok hr, hids,
            Action.run_bind_error (Action.run_ofExcept _ _)]
        have hbad := ch.not_wellFormed_of_childIds h.carried hids
        rw [hrun]
        refine ⟨t, some (.unreadable e), ?_, nofun, nofun⟩
        rw [replacePlan, hends]
        exact h.unreadable hbad e _
      | ok ids =>
        have hrun : run = (ch.writer.turnOver page blocks ids).run w' := by
          change (ch.writer.renew page blocks).run w = _
          rw [renew_eq, Action.run_bind_ok hr, hids, Action.run_bind_ok (Action.run_ofExcept _ _)]
        obtain rfl := Json.childIds_eq_ok hids
        obtain ⟨t', stop', h', hok', herr'⟩ := ch.follows_turnOver page blocks _ w'
        have hpages : listedPages ((t ++ t').map (·.2)) = listedPages (t.map (·.2)) := by
          rw [List.map_append, listedPages_append _ _ hends]
        rw [hrun]
        refine ⟨t ++ t', stop', ?_, fun x hx => ?_, fun e he => (herr' e he).after hquiet⟩
        · rw [hpages, replacePlan, if_pos hends, List.append_nil]
          exact h.trans h'
        · rw [hpages]
          exact ⟨hends, hok' x hx⟩

/-- The steps that write properties, when there are some. -/
def markSteps (page properties : Json) : List Step :=
  if properties.truthy then [.update page properties] else []

/-- Writing properties follows its steps. -/
theorem carries_mark (page properties : Json) (w : World σ) :
    ch.Carries w ((ch.writer.mark page properties).run w) (markSteps page properties)
      fun _ => True := by
  rw [PageWriter.mark, markSteps]
  split
  · have hpure : ∀ (_ : Json) (w' : World σ), True →
        ch.Carries w' ((pure () : Action σ Unit).run w') [] fun _ => True :=
      fun _ w' _ => ⟨[], none, Follows.of_ok () w', fun _ _ => trivial⟩
    exact (ch.carries_call (.update page properties) w).bind hpure
  · exact ⟨[], none, Follows.of_ok () w, fun _ _ => trivial⟩

/-- **Replacing the content of a page** follows its plan, counts what it did, and accounts for a
failed append. -/
theorem follows_replace (page : Json) (blocks : List Json) (properties : Json) (w : World σ) :
    let run := (ch.writer.replace page blocks properties).run w
    let size := ch.connection.config.batchSize.toNat
    ∃ t stop,
      ch.Follows w run (replacePlan page (listedPages (t.map (·.2))) (batchesOf size blocks)
        (markSteps page properties)) t stop ∧
      (∀ x, run.1 = .ok x → listingEnds (listedPages (t.map (·.2))) = true ∧
        x.1 = (listedIds (listedPages (t.map (·.2)))).length ∧
        x.2.blocksAppended = blocks.length) ∧
      (∀ e, run.1 = .error e → Accounts e t stop) := by
  intro run size
  have hmark : ∀ s ∈ markSteps page properties, s.appended? = none := by
    intro s hs
    rw [markSteps] at hs
    split at hs
    · rw [List.mem_singleton.mp hs]
      rfl
    · exact absurd hs List.not_mem_nil
  have hreplace : run = _ := congrArg (Action.run · w) (PageWriter.replace_eq ..)
  obtain ⟨t, stop, h, hok, herr⟩ := ch.follows_renew page blocks w
  cases hr : (ch.writer.renew page blocks).run w with
  | mk result w' =>
    rw [hr] at h hok herr
    cases result with
    | error e =>
      rw [hreplace, Action.run_bind_error hr]
      refine ⟨t, stop, ?_, nofun, fun e' he => ?_⟩
      · cases hends : listingEnds (listedPages (t.map (·.2))) with
        | false =>
          have h' := h.stopped (β := Nat × Receipt) e []
          simpa only [replacePlan, hends, Bool.false_eq_true, if_false, List.append_nil] using h'
        | true =>
          have h' := h.stopped (β := Nat × Receipt) e (markSteps page properties)
          simpa only [replacePlan, hends, if_true, List.append_nil, List.append_assoc] using h'
      · obtain rfl := Except.error.inj he
        exact herr e rfl
    | ok done =>
      obtain ⟨hends, hdone⟩ := hok done rfl
      obtain ⟨t', stop', h', -⟩ := ch.carries_mark page properties w'
      have hpages : listedPages ((t ++ t').map (·.2)) = listedPages (t.map (·.2)) := by
        rw [List.map_append, listedPages_append _ _ hends]
      have hplan : replacePlan page (listedPages (t.map (·.2))) (batchesOf size blocks) [] ++
          markSteps page properties = replacePlan page (listedPages (t.map (·.2)))
            (batchesOf size blocks) (markSteps page properties) := by
        simp only [replacePlan, hends, if_true, List.append_nil, List.append_assoc]
      have hall := h.trans h'
      rw [hplan] at hall
      rw [hreplace, Action.run_bind_ok hr]
      cases hm : (ch.writer.mark page properties).run w' with
      | mk result w'' =>
        rw [hm] at hall
        cases result with
        | error e =>
          rw [Action.run_bind_error hm]
          refine ⟨t ++ t', stop', hpages ▸ hall.fails e, nofun, fun e' _ => ?_⟩
          exact h'.carried.accounts hmark t e'
        | ok _ =>
          rw [Action.run_bind_ok hm]
          refine ⟨t ++ t', stop', hpages ▸ hall.yields done, fun x hx => ?_,
            fun e he => absurd he (by simp)⟩
          obtain rfl := Except.ok.inj hx
          rw [hpages]
          exact ⟨hends, hdone⟩

/-- Converting a document sends nothing. -/
theorem run_convert (markdown : String) (w : World σ) :
    (ch.convert markdown).run w = (.ok (Conversion.ofMarkdown markdown),
      w.note fun j => (Conversion.run ch.settings markdown j).2) := rfl

/-- **Replacing the content of a page by a document** follows the plan for the blocks of the
document and the marker. -/
theorem follows_replacePageFrom (page : Json) (markdown : String) (modified : Option String)
    (w : World σ) :
    let run := (ch.replacePageFrom page markdown modified).run w
    let blocks := (Conversion.ofMarkdown markdown).blocks.map Block.toJson
    let marker := (ch.settings.markerProperties modified).elim .null .obj
    ∃ t stop,
      ch.Follows w run (replacePlan page (listedPages (t.map (·.2)))
        (batchesOf ch.connection.config.batchSize.toNat blocks) (markSteps page marker)) t stop ∧
      (∀ x, run.1 = .ok x → listingEnds (listedPages (t.map (·.2))) = true ∧
        x.deleted = (listedIds (listedPages (t.map (·.2)))).length ∧
        x.appended = blocks.length) ∧
      (∀ e, run.1 = .error e → Accounts e t stop) := by
  intro run blocks marker
  let converted := w.note fun j => (Conversion.run ch.settings markdown j).2
  have hquiet : converted.journal.requests = w.journal.requests := Conversion.requests_run _ _ _
  obtain ⟨t, stop, h, hok, herr⟩ := ch.follows_replace page blocks marker converted
  have hrun : run = _ := Action.run_bind_ok (ch.run_convert markdown w)
  cases hr : (ch.writer.replace page blocks marker).run converted with
  | mk result w' =>
    rw [hr] at h hok herr
    cases result with
    | error e =>
      have hrun' : run = (.error e, w') := hrun.trans (Action.run_bind_error hr)
      rw [hrun']
      refine ⟨t, stop, (h.fails e).of_note hquiet, nofun, fun e' he => ?_⟩
      obtain rfl := Except.error.inj he
      exact herr e rfl
    | ok done =>
      let replaced : Replaced :=
        ⟨page, done.1, done.2.blocksAppended, (Conversion.ofMarkdown markdown).warnings⟩
      have hrun' : run = (.ok replaced, w'.note (logReplaced replaced)) :=
        hrun.trans (Action.run_bind_ok hr)
      rw [hrun']
      refine ⟨t, stop, ((h.yields replaced).note rfl).of_note hquiet,
        fun x hx => ?_, fun e he => absurd he (by simp)⟩
      obtain rfl := Except.ok.inj hx
      exact hok done rfl

/-! ## Creating -/

/-- The identifier of the page that was created, if the first outcome names one. -/
def createdId (outcomes : List Outcome) : Option Json :=
  (outcomes.head?.bind (·.value?)).bind (·.get? "id")

/-- **The plan of a creation**: the page, and then the batches, once it has an identifier. -/
def createPlan (parent properties : Json) (id : Option Json) (batches : List (List Json)) :
    List Step :=
  .create parent properties :: match id with
    | some id => batches.map (.append id)
    | none => []

/-- A page that is created, with its identifier. -/
def named (parent properties : Json) : Action σ (Json × Json) := do
  let s := Step.create parent properties
  let page ← ch.call s.method s.path s.args
  let id ← Action.ofExcept (page.entry "id")
  return (page, id)

/-- To create a page is to create it with its identifier, and to deliver the blocks. -/
theorem create_eq (parent properties : Json) (blocks : List Json) :
    ch.writer.create parent properties blocks = do
      let page ← ch.named parent properties
      let receipt ← deliver ch.connection.config ch.blocksApi page.2 blocks
      return (page.1, receipt) := by
  rw [named]
  simp only [Action.bind_assoc]
  rfl

/-- **Creating a page with its identifier is a step**: it fails, or it gives a page that is named.
-/
theorem named_cases (parent properties : Json) (w : World σ) :
    (∃ e w' t stop, (ch.named parent properties).run w = (.error e, w') ∧
      ch.Follows w ((.error e : Except Fault (Json × Json)), w') [.create parent properties] t
        (some stop) ∧
      createdId (t.map (·.2)) = none) ∨
    ∃ fields id q o w', (ch.named parent properties).run w = (.ok (.obj fields, id), w') ∧
      ch.Follows w (.ok (Json.obj fields, id), w') [.create parent properties] [(q, o)] none ∧
      fields.lookup "id" = some id ∧ ∀ rest, createdId (o :: rest) = some id := by
  rcases ch.call_cases (.create parent properties) w with ⟨e, hcall, h⟩ |
    ⟨q, o, e, w', ho, hcall, h⟩ | ⟨q, o, a, w', hq, ho, hcall, h, -⟩
  · rw [hcall] at h
    exact .inl ⟨e, w, [], _, Action.run_bind_error hcall, h.fails e, rfl⟩
  · have hid : createdId [o] = none := by
      rw [createdId, List.head?_cons, Option.bind_some, Outcome.value?_of_error ho]
      rfl
    rw [hcall] at h
    exact .inl ⟨e, w', [(q, o)], _, Action.run_bind_error hcall, h.fails e, hid⟩
  · rw [hcall] at h
    have hrun : (ch.named parent properties).run w = _ := Action.run_bind_ok hcall
    have hid : ∀ rest, createdId (o :: rest) = a.get? "id" := fun rest => by
      rw [createdId, List.head?_cons, Option.bind_some, Outcome.value?_of_ok ho]
      rfl
    have hget := a.entry_toOption "id"
    cases hentry : a.entry "id" with
    | error e =>
      rw [hentry] at hget hrun
      have hbad : ¬ Traffic.WellFormed [(q, o)] := fun hw => by
        obtain ⟨fields, id, rfl, hnamed⟩ := (hw (q, o) List.mem_cons_self).2
          (Step.method_of_request hq) a (Outcome.value?_of_ok ho)
        exact absurd (hget.trans hnamed) (by simp [Except.toOption])
      exact .inl ⟨e, w', [(q, o)], _, hrun.trans (Action.run_bind_error (Action.run_ofExcept _ _)),
        h.unreadable hbad e [], (hid []).trans hget.symm⟩
    | ok id =>
      rw [hentry] at hget hrun
      obtain ⟨fields, rfl⟩ : ∃ fields, a = .obj fields := by
        cases a with
        | obj fields => exact ⟨fields, rfl⟩
        | _ => exact absurd hentry (by simp [Json.entry])
      exact .inr ⟨fields, id, q, o, w', hrun.trans (Action.run_bind_ok (Action.run_ofExcept _ _)),
        h.yields _, hget.symm, fun rest => (hid rest).trans hget.symm⟩

/-- **Creating a page** follows its plan, and accounts for a failed append. -/
theorem follows_create (parent properties : Json) (blocks : List Json) (w : World σ) :
    let run := (ch.writer.create parent properties blocks).run w
    let size := ch.connection.config.batchSize.toNat
    ∃ t stop,
      ch.Follows w run (createPlan parent properties (createdId (t.map (·.2)))
        (batchesOf size blocks)) t stop ∧
      (∀ x, run.1 = .ok x → ∃ fields id, x.1 = .obj fields ∧ fields.lookup "id" = some id ∧
        createdId (t.map (·.2)) = some id ∧ x.2.blocksAppended = blocks.length) ∧
      (∀ e, run.1 = .error e → Accounts e t stop) := by
  intro run size
  have hquiet : ∀ s ∈ [Step.create parent properties], s.appended? = none := fun s hs => by
    rw [List.mem_singleton.mp hs]
    rfl
  have hcreate : run = _ := congrArg (Action.run · w) (ch.create_eq parent properties blocks)
  rcases ch.named_cases parent properties w with ⟨e, w', t, stop, hnamed, h, hid⟩ |
    ⟨fields, id, q, o, w', hnamed, h, hfields, hid⟩
  · rw [hcreate, Action.run_bind_error hnamed]
    refine ⟨t, some stop, ?_, fun x hx => absurd hx (by simp),
      fun e' _ => h.carried.accounts hquiet [] e'⟩
    rw [hid]
    exact h.fails e
  · obtain ⟨t, stop, h', hok, herr⟩ := ch.follows_deliver id blocks w'
    have hplan : createPlan parent properties (createdId (((q, o) :: t).map (·.2)))
        (batchesOf size blocks) = [.create parent properties] ++
          (batchesOf size blocks).map (.append id) := by
      rw [List.map_cons, hid]
      rfl
    have hall := h.trans h'
    rw [hcreate, Action.run_bind_ok hnamed]
    cases hd : (deliver ch.connection.config ch.blocksApi id blocks).run w' with
    | mk result w'' =>
      rw [hd] at hall hok herr
      cases result with
      | error e =>
        rw [Action.run_bind_error hd]
        refine ⟨(q, o) :: t, stop, hplan ▸ hall.fails e, fun x hx => absurd hx (by simp),
          fun e' he => ?_⟩
        obtain rfl := Except.error.inj he
        exact (herr e rfl).after (h.carried.appended?_eq_none hquiet)
      | ok receipt =>
        rw [Action.run_bind_ok hd]
        refine ⟨(q, o) :: t, stop, hplan ▸ hall.yields (Json.obj fields, receipt), fun x hx => ?_,
          fun e he => absurd he (by simp)⟩
        obtain rfl := Except.ok.inj hx
        exact ⟨fields, id, rfl, hfields, hid _, (hok receipt rfl).2⟩

/-- **Creating a page from a document** follows the plan for the blocks of the document. -/
theorem follows_createPageFrom (database : Json) (title markdown : String)
    (key modified : Option String) (extra : Fields) (w : World σ) :
    let run := (ch.createPageFrom database title markdown key modified extra).run w
    let blocks := (Conversion.ofMarkdown markdown).blocks.map Block.toJson
    ∃ t stop,
      ch.Follows w run (createPlan (.obj [("database_id", database)])
        (.obj (ch.settings.pageProperties title key modified extra)) (createdId (t.map (·.2)))
        (batchesOf ch.connection.config.batchSize.toNat blocks)) t stop ∧
      (∀ x, run.1 = .ok x → createdId (t.map (·.2)) = some x.pageId ∧ x.blocks = blocks.length) ∧
      (∀ e, run.1 = .error e → Accounts e t stop) := by
  intro run blocks
  let parent := Json.obj [("database_id", database)]
  let properties := Json.obj (ch.settings.pageProperties title key modified extra)
  let converted := w.note fun j => (Conversion.run ch.settings markdown j).2
  have hquiet : converted.journal.requests = w.journal.requests := Conversion.requests_run _ _ _
  obtain ⟨t, stop, h, hok, herr⟩ := ch.follows_create parent properties blocks converted
  have hrun : run = _ := Action.run_bind_ok (ch.run_convert markdown w)
  cases hr : (ch.writer.create parent properties blocks).run converted with
  | mk result w' =>
    rw [hr] at h hok herr
    cases result with
    | error e =>
      have hrun' : run = (.error e, w') := hrun.trans (Action.run_bind_error hr)
      rw [hrun']
      refine ⟨t, stop, (h.fails e).of_note hquiet, nofun, fun e' he => ?_⟩
      obtain rfl := Except.error.inj he
      exact herr e rfl
    | ok done =>
      obtain ⟨page, receipt⟩ := done
      obtain ⟨fields, id, hpage, hfields, hid, happended⟩ := hok _ rfl
      obtain rfl : page = .obj fields := hpage
      let created : Created := ⟨id, (fields.lookup "url").getD (.str ""), receipt.blocksAppended,
        (Conversion.ofMarkdown markdown).warnings⟩
      have hentry : (Json.obj fields).entry "id" = .ok id := by rw [Json.entry, hfields]
      have hrun' : run = (.ok created, w'.note (logCreated created)) := by
        refine hrun.trans ((Action.run_bind_ok hr).trans ?_)
        change (Action.ofExcept ((Json.obj fields).entry "id") >>= _).run w' = _
        rw [hentry]
        rfl
      rw [hrun']
      refine ⟨t, stop, ((h.yields created).note rfl).of_note hquiet, fun x hx => ?_,
        fun e he => absurd he (by simp)⟩
      obtain rfl := Except.ok.inj hx
      exact ⟨hid, happended⟩

end Blocking.Channel

end PageSync
