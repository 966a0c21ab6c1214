import PageSync.Blocking.Endpoints
import PageSync.Proofs.Service.Following

/-!
# Proofs/Service/Listing — reading a list to its end

Listing the children of a page asks for its first page, and then for the page at each cursor that
an answer announces.  `follows_children` says that this is all it does, that it stops only at a
page that announces none, and that its value is what the pages hold: the bound on the number of
pages is never met, since each announcement brings the network nearer to its horizon.
-/

namespace PageSync

/-! ## The pages in the answers -/

/-- The pages that outcomes have, up to one that announces no other. -/
def listedPages : List Outcome → List Page
  | [] => []
  | o :: rest =>
    match o.value?.bind fun a => (Page.ofAnswer a).toOption with
    | none => []
    | some p => p :: if p.next.isSome then listedPages rest else []

/-- Whether there is a last page among some. -/
def listingEnds (pages : List Page) : Bool :=
  pages.any (·.next.isNone)

/-- What some pages list. -/
def listedItems (pages : List Page) : List Json :=
  pages.flatMap (·.items)

/-- The steps that ask for pages, the first of them at a cursor. -/
def Step.listing (page : Json) (cursor : Option Json) (pages : List Page) : List Step :=
  (cursor :: (pages.filterMap (·.next)).map some).map (.list page)

theorem listedPages_cons_none {o : Outcome} {a : Json} {e : Fault} (ho : o.value? = some a)
    (hp : Page.ofAnswer a = .error e) (rest : List Outcome) : listedPages (o :: rest) = [] := by
  rw [listedPages, ho, Option.bind_some, hp]
  rfl

theorem listedPages_cons_failed {o : Outcome} (ho : o.value? = none) (rest : List Outcome) :
    listedPages (o :: rest) = [] := by
  rw [listedPages, ho]
  rfl

theorem listedPages_cons_last {o : Outcome} {a : Json} {p : Page} (ho : o.value? = some a)
    (hp : Page.ofAnswer a = .ok p) (hn : p.next = none) (rest : List Outcome) :
    listedPages (o :: rest) = [p] := by
  rw [listedPages, ho, Option.bind_some, hp]
  simp [Except.toOption, hn]

theorem listedPages_cons_more {o : Outcome} {a : Json} {p : Page} {cursor : Json}
    (ho : o.value? = some a) (hp : Page.ofAnswer a = .ok p) (hn : p.next = some cursor)
    (rest : List Outcome) : listedPages (o :: rest) = p :: listedPages rest := by
  rw [listedPages, ho, Option.bind_some, hp]
  simp [Except.toOption, hn]

/-- Once there is a last page, what comes later is not looked at. -/
theorem listedPages_append : ∀ (os rest : List Outcome), listingEnds (listedPages os) = true →
    listedPages (os ++ rest) = listedPages os
  | [], _, h => absurd h (by simp [listedPages, listingEnds])
  | o :: os, rest, h => by
      rw [List.cons_append]
      cases hp : o.value?.bind fun a => (Page.ofAnswer a).toOption with
      | none => simp only [listedPages, hp]
      | some p =>
        simp only [listedPages, hp] at h ⊢
        cases hn : p.next with
        | none => simp
        | some cursor =>
          simp only [hn, Option.isSome_some, if_true] at h ⊢
          have hrest : listingEnds (listedPages os) = true := by
            simpa [listingEnds, hn] using h
          rw [listedPages_append os rest hrest]

/-- An answer that lists objects is a page of objects. -/
theorem Page.ofAnswer_toJson (l : ListAnswer) :
    ∃ next, Page.ofAnswer l.toJson = .ok ⟨l.objects.map .obj, next⟩ := by
  rw [Page.ofAnswer, l.elementsAt_toJson]
  exact ⟨_, rfl⟩

/-- **What well-formed answers list are objects.** -/
theorem exists_fields_of_mem_listed : ∀ {os : List Outcome}, (∀ o ∈ os, o.ListsObjects) →
    ∀ item ∈ listedItems (listedPages os), ∃ fields, item = .obj fields
  | [], _, item, hi => absurd hi (by simp [listedPages, listedItems])
  | o :: os, ho, item, hi => by
      have hos := exists_fields_of_mem_listed fun o' ho' => ho o' (List.mem_cons_of_mem _ ho')
      cases hv : o.value? with
      | none => exact absurd hi (by simp [listedPages_cons_failed hv, listedItems])
      | some a =>
        obtain ⟨l, rfl⟩ := ho o List.mem_cons_self a hv
        obtain ⟨next, hp⟩ := Page.ofAnswer_toJson l
        have hobj : ∀ item ∈ l.objects.map Json.obj, ∃ fields, item = .obj fields := by
          intro item hi
          obtain ⟨fields, -, rfl⟩ := List.mem_map.mp hi
          exact ⟨fields, rfl⟩
        cases next with
        | none =>
          rw [listedPages_cons_last hv hp rfl] at hi
          rw [listedItems, List.flatMap_singleton] at hi
          exact hobj item hi
        | some cursor =>
          rw [listedPages_cons_more hv hp rfl, listedItems, List.flatMap_cons] at hi
          rcases List.mem_append.mp hi with hi | hi
          · exact hobj item hi
          · exact hos item hi

/-! ## Arguments of listing -/

/-- Where the arguments of listing go. -/
theorem pagingArgument_get : pagingArgument "GET" = "params" := by
  decide +kernel

/-- The first page is asked for without a cursor. -/
theorem pageArguments_first (page : Json) :
    pageArguments "GET" none [] = (Step.list page none).args := by
  rw [pageArguments, pagingArgument_get]
  rfl

/-- A later page is asked for at its cursor, in place of the one before. -/
theorem pageArguments_later (page cursor : Json) (before : Option Json) :
    pageArguments "GET" (some cursor) (Step.list page before).args
      = (Step.list page (some cursor)).args := by
  rw [pageArguments, pagingArgument_get]
  cases before <;> rfl

/-- What an answer announces is what its page announces. -/
theorem Page.next_of_ofAnswer {a : Json} {p : Page} (hp : Page.ofAnswer a = .ok p) :
    p.next = a.fields?.bind nextOf := by
  rw [Page.ofAnswer] at hp
  cases hi : a.elementsAt "results" with
  | error e => exact absurd hp (by simp [hi, bind, Except.bind])
  | ok items =>
    rw [hi] at hp
    obtain rfl := Except.ok.inj hp
    rfl

/-- A page announces another one only as its outcome does. -/
theorem announcesMore_of_next : ∀ {o : Outcome} {a : Json} {p : Page} {cursor : Json},
    o.value? = some a → Page.ofAnswer a = .ok p → p.next = some cursor → o.announcesMore = true
  | .failure _ _, _, _, _, ho, _, _ => absurd ho (by simp [Outcome.value?])
  | .response r, a, p, cursor, ho, hp, hn => by
      have hnext := (Page.next_of_ofAnswer hp).symm.trans hn
      rw [Outcome.value?] at ho
      cases hs : r.isSuccess <;> cases hb : r.isBlank <;> simp only [hs, hb, if_true, if_false,
        Bool.false_eq_true, reduceCtorEq, Option.some.injEq] at ho
      · rw [Outcome.announcesMore, Response.announcesMore, ho, Option.bind_some, hnext]
        rfl
      · -- a blank answer announces nothing
        subst ho
        exact absurd hnext (by simp [Json.fields?, Page.nextOf, Json.truthy])

/-! ## Reading to the end -/

namespace Blocking.Channel

open Endpoint

variable {σ : Type} (ch : Channel σ)

/-- Where no page is announced, nothing more is read. -/
theorem drainWithin_nothing (n : Nat) (method path : String) (args : Fields) (buffer : List Json) :
    Pager.drainWithin ch n ⟨method, path, args, buffer, .nothing⟩ = pure buffer := by
  cases n <;> rfl

/-- Asking for the page of children at a cursor. -/
def pageAt (id : Json) (cursor : Option Json) : Action σ Page := do
  let s := Step.list id cursor
  let answer ← ch.call s.method s.path s.args
  Action.ofExcept (Page.ofAnswer answer)

/-- **Asking for a page is a step**: it fails and lists nothing, or it lists the page. -/
theorem pageAt_cases (id : Json) (cursor : Option Json) (w : World σ) :
    (∃ e w' t stop, (ch.pageAt id cursor).run w = (.error e, w') ∧
      ch.Follows w ((.error e : Except Fault Page), w') [.list id cursor] t (some stop) ∧
      listedPages (t.map (·.2)) = []) ∨
    ∃ p q o w', (ch.pageAt id cursor).run w = (.ok p, w') ∧
      ch.Follows w (.ok p, w') [.list id cursor] [(q, o)] none ∧
      (∀ rest, listedPages (o :: rest) = p :: if p.next.isSome then listedPages rest else []) ∧
      (p.next.isSome → ch.network.horizon w'.peer < ch.network.horizon w.peer) := by
  rcases ch.call_cases (.list id cursor) w with ⟨e, hcall, h⟩ | ⟨q, o, e, w', ho, hcall, h⟩ |
    ⟨q, o, a, w', hq, ho, hcall, h, hnear⟩
  · rw [hcall] at h
    exact .inl ⟨e, w, [], _, Action.run_bind_error hcall, h.fails e, rfl⟩
  · rw [hcall] at h
    exact .inl ⟨e, w', [(q, o)], _, Action.run_bind_error hcall, h.fails e,
      listedPages_cons_failed (Outcome.value?_of_error ho) []⟩
  · rw [hcall] at h
    have hrun : (ch.pageAt id cursor).run w = (Page.ofAnswer a, w') := Action.run_bind_ok hcall
    have hv := Outcome.value?_of_ok ho
    cases hp : Page.ofAnswer a with
    | error e =>
      rw [hp] at hrun
      have hbad : ¬ Traffic.WellFormed [(q, o)] := fun hw => by
        obtain ⟨l, rfl⟩ := (hw (q, o) List.mem_cons_self).1 (Step.wantsList_of_request hq) a hv
        obtain ⟨next, hok⟩ := Page.ofAnswer_toJson l
        rw [hok] at hp
        exact absurd hp (by simp)
      exact .inl ⟨e, w', [(q, o)], _, hrun, h.unreadable hbad e [], listedPages_cons_none hv hp []⟩
    | ok p =>
      rw [hp] at hrun
      refine .inr ⟨p, q, o, w', hrun, h.yields p, fun rest => ?_, fun hnext => ?_⟩
      · rw [listedPages, hv, Option.bind_some, hp]
        rfl
      · obtain ⟨c, hc⟩ := Option.isSome_iff_exists.mp hnext
        exact hnear (announcesMore_of_next hv hp hc)

/-- Reading a page and what follows it is asking for it, and then the rest. -/
theorem drainWithin_page (id : Json) (n : Nat) (cursor : Option Json) (args : Fields)
    (buffer : List Json) (h : pageArguments "GET" cursor args = (Step.list id cursor).args) :
    Pager.drainWithin ch (n + 1) ⟨"GET", childrenPath id, args, buffer, .page cursor⟩ = do
      let page ← ch.pageAt id cursor
      let more ← Pager.drainWithin ch n ⟨"GET", childrenPath id, (Step.list id cursor).args,
        page.items, match page.next with
        | some cursor => .page (some cursor)
        | none => .nothing⟩
      return buffer ++ more := by
  change (Pager.load ch ⟨"GET", childrenPath id, args, buffer, .page cursor⟩ cursor >>= fun p =>
    Pager.drainWithin ch n p >>= fun more => pure (buffer ++ more)) = _
  simp only [Pager.load, pageAt, h, Action.bind_assoc]
  rfl

/-- **Reading a list from a cursor to its end.** -/
theorem follows_drain (id : Json) : ∀ (n : Nat) (cursor : Option Json) (args : Fields)
    (buffer : List Json) (w : World σ), ch.network.horizon w.peer < n →
    pageArguments "GET" cursor args = (Step.list id cursor).args →
    let r := (Pager.drainWithin ch n
      ⟨"GET", childrenPath id, args, buffer, .page cursor⟩).run w
    ∃ t stop,
      ch.Follows w r (Step.listing id cursor (listedPages (t.map (·.2)))) t stop ∧
      (∀ items, r.1 = .ok items → listingEnds (listedPages (t.map (·.2))) = true ∧
        items = buffer ++ listedItems (listedPages (t.map (·.2)))) ∧
      (∀ e, r.1 = .error e → listingEnds (listedPages (t.map (·.2))) = false)
  | 0, _, _, _, _, hn, _ => absurd hn (Nat.not_lt_zero _)
  | n + 1, cursor, args, buffer, w, hn, hargs => by
      intro r
      have hr : r = _ :=
        congrArg (Action.run · w) (drainWithin_page ch id n cursor args buffer hargs)
      rw [hr]
      rcases ch.pageAt_cases id cursor w with ⟨e, w', t, stop, hrun, h, hpages⟩ |
        ⟨p, q, o, w', hrun, h, hpages, hnear⟩
      · rw [Action.run_bind_error hrun]
        refine ⟨t, some stop, ?_, nofun, fun _ _ => congrArg listingEnds hpages⟩
        rw [hpages]
        exact h.fails e
      · rw [Action.run_bind_ok hrun]
        cases hnext : p.next with
        | none =>
          have hlast : listedPages [o] = [p] := by
            rw [hpages, hnext]
            rfl
          have hrest := congrArg (Action.run · w')
            (drainWithin_nothing ch n "GET" (childrenPath id) (Step.list id cursor).args p.items)
          rw [Action.run_bind_ok hrest, Action.run_pure]
          refine ⟨[(q, o)], none, ?_, fun items hi => ?_, fun e he => absurd he (by simp)⟩
          · rw [List.map_singleton, hlast, Step.listing, List.filterMap_cons_none hnext]
            exact h.yields _
          · rw [List.map_singleton, hlast]
            refine ⟨by simp [listingEnds, hnext], ?_⟩
            rw [listedItems, List.flatMap_singleton]
            exact (Except.ok.inj hi).symm
        | some c =>
          have hfuel : ch.network.horizon w'.peer < n :=
            Nat.lt_of_lt_of_le (hnear (hnext ▸ rfl)) (Nat.le_of_lt_succ hn)
          obtain ⟨t, stop, hrest, hok, herr⟩ := follows_drain id n (some c)
            (Step.list id cursor).args p.items w' hfuel (pageArguments_later id c cursor)
          have hmore : listedPages (o :: t.map (·.2)) = p :: listedPages (t.map (·.2)) := by
            rw [hpages, hnext]
            rfl
          have hplan : Step.listing id cursor (p :: listedPages (t.map (·.2)))
              = [.list id cursor] ++ Step.listing id (some c) (listedPages (t.map (·.2))) := by
            rw [Step.listing, List.filterMap_cons_some hnext]
            rfl
          have hends : listingEnds (p :: listedPages (t.map (·.2)))
              = listingEnds (listedPages (t.map (·.2))) := by
            simp [listingEnds, hnext]
          refine ⟨(q, o) :: t, stop, ?_⟩
          rw [List.map_cons, hmore, hplan, hends]
          cases hdrain : (Pager.drainWithin ch n ⟨"GET", childrenPath id,
              (Step.list id cursor).args, p.items, .page (some c)⟩).run w' with
          | mk result w'' =>
            rw [hdrain] at hrest hok herr
            have hall := h.trans hrest
            cases result with
            | error e =>
              rw [Action.run_bind_error hdrain]
              exact ⟨hall.fails e, nofun, fun _ _ => herr e rfl⟩
            | ok items =>
              obtain ⟨hend, hitems⟩ := hok items rfl
              rw [Action.run_bind_ok hdrain, Action.run_pure]
              refine ⟨hall.yields _, fun _ hi => ⟨hend, ?_⟩, fun e he => absurd he (by simp)⟩
              rw [listedItems, List.flatMap_cons, ← listedItems, ← hitems]
              exact (Except.ok.inj hi).symm

/-- **Listing the children of a page** asks for its pages, from the first to the last. -/
theorem follows_children (id : Json) (w : World σ) :
    let r := (ch.children id).run w
    ∃ t stop,
      ch.Follows w r (Step.listing id none (listedPages (t.map (·.2)))) t stop ∧
      (∀ items, r.1 = .ok items → listingEnds (listedPages (t.map (·.2))) = true ∧
        items = listedItems (listedPages (t.map (·.2)))) ∧
      (∀ e, r.1 = .error e → listingEnds (listedPages (t.map (·.2))) = false) := by
  intro r
  have hbound : (Pager.pageBound ch).run w = (.ok (ch.network.horizon w.peer + 1), w) := rfl
  have hr : r = _ := Action.run_bind_ok hbound
  rw [hr]
  exact ch.follows_drain id (ch.network.horizon w.peer + 1) none [] [] w (Nat.lt_succ_self _)
    (pageArguments_first id)

end Blocking.Channel

end PageSync
