import PageSync.Proofs.Session.Twin

/-!
# Proofs/Session/Lookup — looking a page up by its key

A lookup takes the first item of a query, and the query is read page by page.  `LooksThrough` says
which pages that asks for: empty ones that announce another are passed over, and the first that is
not empty, or announces none, is the last.  This is kept by reading one more page
(`LooksThrough.cons`), and the bound on the number of pages is never met (`exists_looksThrough`), so
a lookup finds the first row there is and asks for nothing after it (`lookup_finds_first_row`).
-/

namespace PageSync

open Endpoint

/-! ## The query -/

/-- The body that asks for the page at a cursor of the rows with a key. -/
def queryBody (property key : String) (cursor : Option Json) : Fields :=
  Property.keyFilter property key ++
    ("page_size", .int 100) :: (cursor.map (Prod.mk "start_cursor")).toList

/-- A request asks for the page at a cursor of the rows with a key. -/
def AsksForRows (c : Connection) (database : Json) (property key : String) (cursor : Option Json)
    (q : Request) : Prop :=
  c.request "POST" (queryPath database) (withBody (queryBody property key cursor)) = .ok q ∧
    q.method = "POST" ∧ q.body = some (.obj (queryBody property key cursor))

/-- Where the arguments of a query go. -/
theorem pagingArgument_post : pagingArgument "POST" = "json" := by
  decide +kernel

/-- The first page is asked for without a cursor. -/
theorem pageArguments_query_first (property key : String) :
    pageArguments "POST" none (withBody (Property.keyFilter property key))
      = withBody (queryBody property key none) := by
  rw [pageArguments, pagingArgument_post]
  rfl

/-- A later page is asked for at its cursor, in place of the one before. -/
theorem pageArguments_query_later (property key : String) (cursor : Json) (before : Option Json) :
    pageArguments "POST" (some cursor) (withBody (queryBody property key before))
      = withBody (queryBody property key (some cursor)) := by
  rw [pageArguments, pagingArgument_post]
  cases before <;> rfl

/-- A query that can be sent asks for rows. -/
theorem asksForRows_of_request {c : Connection} {database : Json} {property key : String}
    {cursor : Option Json} {q : Request}
    (h : c.request "POST" (queryPath database) (withBody (queryBody property key cursor)) = .ok q) :
    AsksForRows c database property key cursor q := by
  obtain ⟨hmethod, hbody⟩ := Connection.of_request_ok h
  have hupper : Text.upper "POST" = "POST" := by decide +kernel
  exact ⟨h, hmethod.trans hupper, hbody⟩

/-! ## What goes over the channel during a lookup -/

/-- **A query was looked through** from the page at a cursor on: what was requested, what the
answers were, and what was found in them or went wrong. -/
structure LooksThrough (c : Connection) (database : Json) (property key : String)
    (start : Option Json) (t : Traffic) (pages : List Page) (found : Except Fault (Option Json)) :
    Prop where
  /-- Each request asks for the page that the one before announced, the first for the start. -/
  requests : List.Forall₂ (fun cursor p => AsksForRows c database property key cursor p.1)
    ((start :: pages.map (·.next)).take t.length) t
  /-- The answers are the pages, each as it is written if it is well-formed. -/
  answers : List.Forall₂
    (fun p page => ∃ a, p.2.value? = some a ∧ ∀ b : PageAnswer, a = b.toJson → page = b.page)
    (t.take pages.length) pages
  /-- It went on only after an empty page that announced another. -/
  goesOn : ∀ page ∈ pages.dropLast, page.items = [] ∧ page.next.isSome
  /-- A row was found exactly when it is the first of the last page that was asked for. -/
  hit : ∀ row, found = .ok (some row) ↔
    t.length = pages.length ∧ ∃ last ∈ pages.getLast?, last.items.head? = some row
  /-- Nothing was found exactly when all pages are empty, up to one that announced no other. -/
  miss : found = .ok none ↔
    t.length = pages.length ∧ (∀ page ∈ pages, page.items = []) ∧
      ∃ last ∈ pages.getLast?, last.next = none
  /-- It failed only where all pages before were empty and one was announced, but could not be
  asked for, or was asked for in a last request that failed or was not answered with a well-formed
  page. -/
  fails : ∀ e, found = .error e →
    (∀ page ∈ pages, page.items = [] ∧ page.next.isSome) ∧
    ((t.length = pages.length ∧ ∃ cursor ∈ (start :: pages.map (·.next)).getLast?,
        c.request "POST" (queryPath database) (withBody (queryBody property key cursor))
          = .error e) ∨
      ∃ q o, t.drop pages.length = [(q, o)] ∧
        (o.answer ⟨"POST", queryPath database⟩ = .error e ∨
          ∃ a, o.value? = some a ∧ ∀ b : PageAnswer, a ≠ b.toJson))

/-- What does not hold of a page is to be looked for in the last of those behind it. -/
theorem exists_last_cons {P : Page → Prop} {page : Page} (hpage : ¬ P page) (pages : List Page) :
    (∃ last ∈ (page :: pages).getLast?, P last) ↔ ∃ last ∈ pages.getLast?, P last := by
  cases pages with
  | nil => simpa using hpage
  | cons later rest => rw [List.getLast?_cons_cons]

namespace LooksThrough

variable {c : Connection} {database : Json} {property key : String} {start : Option Json}
  {q : Request} {o : Outcome} {e : Fault}

/-- A page cannot be asked for. -/
theorem of_refused (hq : c.request "POST" (queryPath database)
      (withBody (queryBody property key start)) = .error e) :
    LooksThrough c database property key start [] [] (.error e) where
  requests := .nil
  answers := .nil
  goesOn := nofun
  hit row := by simp
  miss := by simp
  fails := by
    rintro _ ⟨⟩
    exact ⟨nofun, .inl ⟨rfl, start, rfl, hq⟩⟩

/-- A request fails, or its answer is no well-formed page. -/
theorem of_failed (hq : AsksForRows c database property key start q)
    (ho : o.answer ⟨"POST", queryPath database⟩ = .error e ∨
      ∃ a, o.value? = some a ∧ ∀ b : PageAnswer, a ≠ b.toJson) :
    LooksThrough c database property key start [(q, o)] [] (.error e) where
  requests := .cons hq .nil
  answers := .nil
  goesOn := nofun
  hit row := by simp
  miss := by simp
  fails := by
    rintro _ ⟨⟩
    exact ⟨nofun, .inr ⟨q, o, rfl, ho⟩⟩

variable {a : Json} {page : Page} (hq : AsksForRows c database property key start q)
  (ho : o.value? = some a) (hp : Page.ofAnswer a = .ok page)

include hq ho hp

/-- A page has a row. -/
theorem of_hit {row : Json} {rest : List Json} (hitems : page.items = row :: rest) :
    LooksThrough c database property key start [(q, o)] [page] (.ok (some row)) where
  requests := .cons hq .nil
  answers := .cons ⟨a, ho, ReadsPages.page_eq hp⟩ .nil
  goesOn := nofun
  hit row' := by simp [hitems]
  miss := by simp [hitems]
  fails := nofun

/-- A page is empty and announces no other. -/
theorem of_end (hitems : page.items = []) (hnext : page.next = none) :
    LooksThrough c database property key start [(q, o)] [page] (.ok none) where
  requests := .cons hq .nil
  answers := .cons ⟨a, ho, ReadsPages.page_eq hp⟩ .nil
  goesOn := nofun
  hit row := by simp [hitems]
  miss := by simp [hitems, hnext]
  fails := nofun

/-- **An empty page announces another one**, and the lookup goes on from there. -/
theorem cons {cursor : Json} {t : Traffic} {pages : List Page}
    {found : Except Fault (Option Json)} (hitems : page.items = [])
    (hnext : page.next = some cursor)
    (h : LooksThrough c database property key (some cursor) t pages found) :
    LooksThrough c database property key start ((q, o) :: t) (page :: pages) found where
  requests := .cons hq (by
    have := h.requests
    rwa [← hnext] at this)
  answers := .cons ⟨a, ho, ReadsPages.page_eq hp⟩ h.answers
  goesOn := forall_dropLast_cons ⟨hitems, hnext ▸ rfl⟩ h.goesOn
  hit row := by
    have hpage : ¬ page.items.head? = some row := by simp [hitems]
    rw [h.hit row, exists_last_cons (P := fun p => p.items.head? = some row) hpage]
    simp only [List.length_cons, Nat.add_right_cancel_iff]
  miss := by
    have hpage : ¬ page.next = none := by simp [hnext]
    rw [h.miss, exists_last_cons (P := fun p => p.next = none) hpage, List.forall_mem_cons]
    simp only [List.length_cons, Nat.add_right_cancel_iff, hitems, true_and]
  fails e he := by
    obtain ⟨hall, hwhy⟩ := h.fails e he
    refine ⟨List.forall_mem_cons.mpr ⟨⟨hitems, hnext ▸ rfl⟩, hall⟩, hwhy.imp ?_ id⟩
    rintro ⟨hlen, asked, hasked, hrefused⟩
    refine ⟨congrArg (· + 1) hlen, asked, ?_, hrefused⟩
    rw [List.map_cons, hnext, List.getLast?_cons_cons]
    exact hasked

end LooksThrough

/-! ## Lookups -/

namespace Blocking.Channel

variable {σ : Type} (ch : Channel σ)

/-- **Taking a row from the page at a cursor on** looks through the query from there. -/
theorem exists_looksThrough (database : Json) (property key : String) : ∀ (n : Nat)
    (cursor : Option Json) (args : Fields) (w : World σ), ch.network.horizon w.peer < n →
    pageArguments "POST" cursor args = withBody (queryBody property key cursor) →
    ∃ taken w' t pages,
      (Pager.nextWithin ch n ⟨"POST", queryPath database, args, [], .page cursor⟩).run w
        = (taken, w') ∧
      ch.Exchanged w t w' ∧
      LooksThrough ch.connection database property key cursor t pages
        (taken.map (·.map (·.1)))
  | 0, _, _, _, hn, _ => absurd hn (Nat.not_lt_zero _)
  | n + 1, cursor, args, w, hn, hargs => by
      rw [Pager.nextWithin_page ch n rfl rfl]
      have hcases :=
        Pager.load_cases ch ⟨"POST", queryPath database, args, [], .page cursor⟩ cursor w
      simp only [hargs] at hcases
      rcases hcases with ⟨e, hq, hload⟩ | ⟨q, o, w', e, hq, hx, hload, hwhy⟩ |
        ⟨q, o, w', a, page, hq, hx, hv, hpage, hload, hnear⟩
      · exact ⟨.error e, w, [], [], Action.run_bind_error hload, .refl w, .of_refused hq⟩
      · exact ⟨.error e, w', [(q, o)], [], Action.run_bind_error hload, hx,
          .of_failed (asksForRows_of_request hq) hwhy⟩
      · have hasks := asksForRows_of_request hq
        rw [Action.run_bind_ok hload]
        obtain ⟨items, next⟩ := page
        rcases items with - | ⟨row, rest⟩
        · cases next with
          | none =>
            rw [Pager.nextWithin_nothing ch n rfl rfl]
            exact ⟨.ok none, w', [(q, o)], [_], rfl, hx, .of_end hasks hv hpage rfl rfl⟩
          | some c =>
            have hless := hnear rfl
            obtain ⟨taken, w'', t, pages, hrun, hx', h⟩ := exists_looksThrough database property key
              n (some c) (withBody (queryBody property key cursor)) w' (by omega)
              (pageArguments_query_later property key c cursor)
            exact ⟨taken, w'', (q, o) :: t, _ :: pages, hrun, hx.trans hx',
              .cons hasks hv hpage rfl rfl h⟩
        · rw [Pager.nextWithin_cons ch n rfl]
          exact ⟨.ok (some (row, _)), w', [(q, o)], [_], rfl, hx, .of_hit hasks hv hpage rfl⟩

/-- **A lookup finds the first row there is, and asks for nothing after it.**  It asks for the pages
of the query one by one, each with the whole filter, and passes over empty ones; it ends at the
first page with a row, and that row is found, or at the last page of all, and nothing is.  A page
that cannot be had is a failure only where no page before had a row.  The client that gives way does
the same with the same result.  (What is returned for a null in place of a row is the same as for no
row.) -/
theorem lookup_finds_first_row (database : Json) (property key : String) (w : World σ) :
    ∃ returned found w' t pages,
      (ch.queryByKey database property key).run w = (returned, w') ∧
      ((⟨ch.connection, ch.network⟩ : Suspending.Channel σ).queryByKey database property key).run w
        = (returned, w') ∧
      ch.Exchanged w t w' ∧
      LooksThrough ch.connection database property key none t pages found ∧
      returned = found.map (·.filter (· ≠ .null)) ∧
      ((∀ page ∈ pages, .null ∉ page.items) → returned = found) := by
  obtain ⟨taken, w', t, pages, hrun, hx, h⟩ := ch.exists_looksThrough database property key
    (ch.network.horizon w.peer + 1) none (withBody (Property.keyFilter property key)) w
    (Nat.lt_succ_self _) (pageArguments_query_first property key)
  have hblocking : (ch.queryByKey database property key).run w
      = ((taken.map (·.map (·.1))).map (·.filter (· ≠ .null)), w') := by
    have hnext : (Pager.next? ch (Pager.start "POST" (queryPath database)
        (withBody (Property.keyFilter property key)))).run w = (taken, w') := hrun
    rw [queryByKey, Action.run_bind, hnext]
    cases taken <;> rfl
  refine ⟨_, _, w', t, pages, hblocking, ?_, hx, h, rfl, fun hrows => ?_⟩
  · exact (Suspending.Channel.runsAs_queryByKey ⟨ch.connection, ch.network⟩ database property key
      w).trans hblocking
  · generalize taken.map (·.map (·.1)) = found at h
    rcases found with e | - | row
    · rfl
    · rfl
    · obtain ⟨-, last, hlast, hhead⟩ := (h.hit row).mp rfl
      have hrow : row ≠ .null := by
        rintro rfl
        exact hrows last (List.mem_of_getLast? hlast) (List.mem_of_head? hhead)
      exact congrArg Except.ok (Option.filter_some_pos (by simpa using hrow))

end Blocking.Channel

end PageSync
