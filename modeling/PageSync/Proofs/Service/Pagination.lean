import Mathlib.Data.List.Forall2
import PageSync.Proofs.Service.Listing

/-!
# Proofs/Service/Pagination — a list taken item by item, to its end

A consumer takes the items of a list one by one until there is none left or taking one fails
(`Pager.Exhausts`).  `ReadsPages` says what went over the channel meanwhile: one request a page,
each of which asks for the page that the one before announced, and none after the page that
announces no other.  Two facts carry this to the end of the list: an item in hand costs no request,
and the bound on the number of pages never cuts a list short, since each announcement brings the
network nearer to its horizon (`next?_of_load`).
-/

namespace PageSync

/-! ## Pages as the service writes them -/

/-- A well-formed page: an object that lists its items, says whether there are more, and where these
begin.  Each of the three may be missing. -/
structure PageAnswer where
  fields : Fields
  results : Option (List Json)
  hasMore : Option Bool
  nextCursor : Option Json
  lookup_results : fields.lookup "results" = results.map .arr
  lookup_hasMore : fields.lookup "has_more" = hasMore.map .bool
  lookup_nextCursor : fields.lookup "next_cursor" = nextCursor

namespace PageAnswer

/-- The answer as a value. -/
def toJson (a : PageAnswer) : Json :=
  .obj a.fields

/-- The items of a page and the cursor of the next one.  There is a next page only where there are
more items and their cursor is given and not null. -/
def page (a : PageAnswer) : Page where
  items := a.results.getD []
  next := if a.hasMore = some true then a.nextCursor.filter (· ≠ .null) else none

/-- **A well-formed page is read as it is written.** -/
theorem ofAnswer_toJson (a : PageAnswer) : Page.ofAnswer a.toJson = .ok a.page := by
  obtain ⟨fields, results, hasMore, nextCursor, hr, hm, hc⟩ := a
  have hitems : (Json.obj fields).elementsAt "results" = .ok (results.getD []) := by
    cases results <;>
      simp [Json.elementsAt, Json.find, Json.elements, hr, bind, Except.bind, pure, Except.pure]
  have hnext : Page.nextOf fields
      = if hasMore = some true then nextCursor.filter (· ≠ .null) else none := by
    rw [Page.nextOf, hm, hc]
    rcases hasMore with - | - | - <;> simp [Json.truthy]
  rw [Page.ofAnswer, toJson, hitems]
  exact congrArg (fun next => Except.ok (Page.mk (results.getD []) next)) hnext

end PageAnswer

/-! ## The arguments of the calls for pages -/

/-- The argument that says which page a call asks for: the body of a POST or a PATCH, in capitals or
not, and the query of any other method. -/
def pagedArgument (method : String) : String :=
  if Text.upper method = "POST" ∨ Text.upper method = "PATCH" then "json" else "params"

/-- The entries of this argument, if it has some. -/
def pagedEntries (method : String) (args : Fields) : Fields :=
  ((args.lookup (pagedArgument method)).bind Json.fields?).getD []

/-- **Arguments keep what the caller gave**, but for the size of a page and its cursor. -/
structure KeepsGiven (method : String) (given args : Fields) : Prop where
  others : ∀ name, name ≠ pagedArgument method → args.lookup name = given.lookup name
  entries : ∀ name, name ≠ "page_size" → name ≠ "start_cursor" →
    (pagedEntries method args).lookup name = (pagedEntries method given).lookup name

/-- **Arguments ask for the page at a cursor**, or for the first one, and keep what the caller gave
besides. -/
structure AsksFor (method : String) (given : Fields) (cursor : Option Json) (args : Fields) : Prop
    extends KeepsGiven method given args where
  isObject : args.lookup (pagedArgument method) = some (.obj (pagedEntries method args))
  size : (pagedEntries method args).lookup "page_size" = some (.int 100)
  cursor : (pagedEntries method args).lookup "start_cursor" = cursor

theorem KeepsGiven.refl (method : String) (given : Fields) : KeepsGiven method given given :=
  ⟨fun _ _ => rfl, fun _ _ _ => rfl⟩

theorem pagingArgument_eq (method : String) : pagingArgument method = pagedArgument method := by
  simp [pagingArgument, pagedArgument]

/-- Entries that ask for the page at a cursor: the cursor of another page is gone. -/
def entriesAt (cursor : Option Json) (entries : Fields) : Fields :=
  match cursor with
  | some c => (entries.set "page_size" (.int 100)).set "start_cursor" c
  | none => (entries.set "page_size" (.int 100)).erase "start_cursor"

theorem lookup_entriesAt_size (cursor : Option Json) (entries : Fields) :
    (entriesAt cursor entries).lookup "page_size" = some (.int 100) := by
  cases cursor with
  | none => rw [entriesAt, Fields.lookup_erase_of_ne _ (by decide), Fields.lookup_set_self]
  | some c => rw [entriesAt, Fields.lookup_set_of_ne _ _ (by decide), Fields.lookup_set_self]

theorem lookup_entriesAt_cursor (cursor : Option Json) (entries : Fields) :
    (entriesAt cursor entries).lookup "start_cursor" = cursor := by
  cases cursor with
  | none => exact Fields.lookup_erase_self _ _
  | some c => exact Fields.lookup_set_self _ _ _

theorem lookup_entriesAt_of_ne (cursor : Option Json) (entries : Fields) {name : String}
    (hsize : name ≠ "page_size") (hcursor : name ≠ "start_cursor") :
    (entriesAt cursor entries).lookup name = entries.lookup name := by
  cases cursor with
  | none => rw [entriesAt, Fields.lookup_erase_of_ne _ hcursor, Fields.lookup_set_of_ne _ _ hsize]
  | some c => rw [entriesAt, Fields.lookup_set_of_ne _ _ hcursor, Fields.lookup_set_of_ne _ _ hsize]

/-- Asking for a page writes one argument anew. -/
theorem pageArguments_eq (method : String) (cursor : Option Json) (args : Fields) :
    pageArguments method cursor args
      = args.set (pagedArgument method) (.obj (entriesAt cursor (pagedEntries method args))) := by
  unfold pageArguments
  rw [pagingArgument_eq]
  cases cursor <;> rfl

/-- **The arguments of a call ask for its page**, whichever page the call before asked for. -/
theorem KeepsGiven.asksFor {method : String} {given args : Fields}
    (h : KeepsGiven method given args) (cursor : Option Json) :
    AsksFor method given cursor (pageArguments method cursor args) := by
  have hself : (pageArguments method cursor args).lookup (pagedArgument method)
      = some (.obj (entriesAt cursor (pagedEntries method args))) := by
    rw [pageArguments_eq, Fields.lookup_set_self]
  have hentries : pagedEntries method (pageArguments method cursor args)
      = entriesAt cursor (pagedEntries method args) := by
    rw [pagedEntries, hself]
    rfl
  refine ⟨⟨fun name hn => ?_, fun name hsize hcursor => ?_⟩, ?_, ?_, ?_⟩
  · rw [pageArguments_eq, Fields.lookup_set_of_ne _ _ hn, h.others name hn]
  · rw [hentries, lookup_entriesAt_of_ne _ _ hsize hcursor, h.entries name hsize hcursor]
  · rw [hself, hentries]
  · rw [hentries, lookup_entriesAt_size]
  · rw [hentries, lookup_entriesAt_cursor]

/-! ## What goes over the channel while a list is read -/

/-- **A list was read page by page**, from the page at a cursor on, and ended well or with a fault:
what was requested, what the answers were, and why it went on or stopped. -/
structure ReadsPages (c : Connection) (method path : String) (given : Fields)
    (start : Option Json) (t : Traffic) (pages : List Page) (result : Except Fault Unit) :
    Prop where
  /-- Each request asks for the page that the one before announced, the first for the start. -/
  requests : List.Forall₂
    (fun cursor p => ∃ args,
      AsksFor method given cursor args ∧ c.request method path args = .ok p.1)
    ((start :: pages.map (·.next)).take t.length) t
  /-- The answers are the pages, each as it is written if it is well-formed. -/
  answers : List.Forall₂
    (fun p page => ∃ a, p.2.value? = some a ∧ ∀ b : PageAnswer, a = b.toJson → page = b.page)
    (t.take pages.length) pages
  /-- It went on only after a page that announced another. -/
  goesOn : ∀ page ∈ pages.dropLast, page.next.isSome
  /-- It ended well with a page that announced no other, and nothing was requested after it. -/
  ends : result = .ok () → t.length = pages.length ∧ ∃ last ∈ pages.getLast?, last.next = none
  /-- It failed where a page was announced, but could not be asked for, or was asked for in a last
  request that failed or was not answered with a well-formed page. -/
  fails : ∀ e, result = .error e →
    (∀ page ∈ pages, page.next.isSome) ∧
    ((t.length = pages.length ∧
        ∃ cursor ∈ (start :: pages.map (·.next)).getLast?, ∃ args,
          AsksFor method given cursor args ∧ c.request method path args = .error e) ∨
      ∃ q o, t.drop pages.length = [(q, o)] ∧
        (o.answer ⟨method, path⟩ = .error e ∨
          ∃ a, o.value? = some a ∧ ∀ b : PageAnswer, a ≠ b.toJson))

/-- What holds of a page and of all but the last behind it holds of all but the last of them. -/
theorem forall_dropLast_cons {P : Page → Prop} {page : Page} (hpage : P page) :
    ∀ {pages : List Page}, (∀ p ∈ pages.dropLast, P p) → ∀ p ∈ (page :: pages).dropLast, P p
  | [], _ => nofun
  | _ :: _, h => List.forall_mem_cons.mpr ⟨hpage, h⟩

namespace ReadsPages

variable {c : Connection} {method path : String} {given args : Fields} {start : Option Json}
  {q : Request} {o : Outcome} {e : Fault}

/-- A page cannot be asked for. -/
theorem of_refused (hargs : AsksFor method given start args)
    (hq : c.request method path args = .error e) :
    ReadsPages c method path given start [] [] (.error e) where
  requests := .nil
  answers := .nil
  goesOn := nofun
  ends := nofun
  fails := by
    rintro _ ⟨⟩
    exact ⟨nofun, .inl ⟨rfl, start, rfl, args, hargs, hq⟩⟩

/-- A request fails, or its answer is no well-formed page. -/
theorem of_failed (hargs : AsksFor method given start args)
    (hq : c.request method path args = .ok q)
    (ho : o.answer ⟨method, path⟩ = .error e ∨
      ∃ a, o.value? = some a ∧ ∀ b : PageAnswer, a ≠ b.toJson) :
    ReadsPages c method path given start [(q, o)] [] (.error e) where
  requests := .cons ⟨args, hargs, hq⟩ .nil
  answers := .nil
  goesOn := nofun
  ends := nofun
  fails := by
    rintro _ ⟨⟩
    exact ⟨nofun, .inr ⟨q, o, rfl, ho⟩⟩

variable {a : Json} {page : Page}

/-- A page is as it is written, if it is well-formed. -/
theorem page_eq (hp : Page.ofAnswer a = .ok page) (b : PageAnswer) (hab : a = b.toJson) :
    page = b.page := by
  have hb := b.ofAnswer_toJson
  rw [← hab, hp] at hb
  exact Except.ok.inj hb

/-- A page announces no other. -/
theorem of_last (hargs : AsksFor method given start args) (hq : c.request method path args = .ok q)
    (ho : o.value? = some a) (hp : Page.ofAnswer a = .ok page) (hnext : page.next = none) :
    ReadsPages c method path given start [(q, o)] [page] (.ok ()) where
  requests := .cons ⟨args, hargs, hq⟩ .nil
  answers := .cons ⟨a, ho, page_eq hp⟩ .nil
  goesOn := nofun
  ends _ := ⟨rfl, page, rfl, hnext⟩
  fails := nofun

/-- **A page announces another one**, and it goes on from there. -/
theorem cons {cursor : Json} {t : Traffic} {pages : List Page} {result : Except Fault Unit}
    (hargs : AsksFor method given start args) (hq : c.request method path args = .ok q)
    (ho : o.value? = some a) (hp : Page.ofAnswer a = .ok page) (hnext : page.next = some cursor)
    (h : ReadsPages c method path given (some cursor) t pages result) :
    ReadsPages c method path given start ((q, o) :: t) (page :: pages) result where
  requests := .cons ⟨args, hargs, hq⟩ (by
    have := h.requests
    rwa [← hnext] at this)
  answers := .cons ⟨a, ho, page_eq hp⟩ h.answers
  goesOn := forall_dropLast_cons (hnext ▸ rfl) h.goesOn
  ends hr := by
    obtain ⟨hlen, last, hlast, hnone⟩ := h.ends hr
    refine ⟨congrArg (· + 1) hlen, last, ?_, hnone⟩
    rw [List.getLast?_cons, Option.mem_def.mp hlast]
    rfl
  fails e he := by
    obtain ⟨hall, hwhy⟩ := h.fails e he
    refine ⟨fun p hmem => ?_, hwhy.imp ?_ id⟩
    · rcases List.mem_cons.mp hmem with rfl | hmem
      · exact hnext ▸ rfl
      · exact hall p hmem
    · rintro ⟨hlen, asked, hasked, hrest⟩
      refine ⟨congrArg (· + 1) hlen, asked, ?_, hrest⟩
      rw [List.map_cons, hnext, List.getLast?_cons_cons]
      exact hasked

end ReadsPages

/-! ## Reading -/

namespace Blocking.Pager

variable {σ : Type}

/-- **Items are taken one by one** until there is none left, or taking one fails. -/
inductive Exhausts (ch : Channel σ) :
    Pager → World σ → List Json → Except Fault Unit → World σ → Prop
  | ended {p : Pager} {w w' : World σ} (h : (p.next? ch).run w = (.ok none, w')) :
    Exhausts ch p w [] (.ok ()) w'
  | failed {p : Pager} {w w' : World σ} {e : Fault} (h : (p.next? ch).run w = (.error e, w')) :
    Exhausts ch p w [] (.error e) w'
  | item {p rest : Pager} {w w₁ w' : World σ} {x : Json} {items : List Json}
    {result : Except Fault Unit} (h : (p.next? ch).run w = (.ok (some (x, rest)), w₁))
    (more : Exhausts ch rest w₁ items result w') : Exhausts ch p w (x :: items) result w'

/-- A list of which a page has just been read. -/
def turned (p : Pager) (args : Fields) (page : Page) : Pager :=
  { p with
    args := args
    buffer := page.items
    pending := match page.next with
      | some cursor => .page (some cursor)
      | none => .nothing }

variable (ch : Channel σ)

/-- **Reading a page** is one request at most, and it fails or gives the page.  A page that
announces another one brings the network nearer to its horizon. -/
theorem load_cases (p : Pager) (cursor : Option Json) (w : World σ) :
    let args := pageArguments p.method cursor p.args
    let r := (p.load ch cursor).run w
    (∃ e, ch.connection.request p.method p.path args = .error e ∧ r = (.error e, w)) ∨
    (∃ q o w' e, ch.connection.request p.method p.path args = .ok q ∧
      ch.Exchanged w [(q, o)] w' ∧ r = (.error e, w') ∧
      (o.answer ⟨p.method, p.path⟩ = .error e ∨
        ∃ a, o.value? = some a ∧ ∀ b : PageAnswer, a ≠ b.toJson)) ∨
    ∃ q o w' a page, ch.connection.request p.method p.path args = .ok q ∧
      ch.Exchanged w [(q, o)] w' ∧ o.value? = some a ∧ Page.ofAnswer a = .ok page ∧
      r = (.ok (p.turned args page), w') ∧
      (page.next.isSome → ch.network.horizon w'.peer < ch.network.horizon w.peer) := by
  intro args r
  cases hq : ch.connection.request p.method p.path args with
  | error e =>
    have hr : r = (.error e, w) := Action.run_bind_error (Channel.run_call_refused hq)
    exact .inl ⟨e, rfl, hr⟩
  | ok q =>
    obtain ⟨o, w', hcall, hx, hnear⟩ := Channel.run_call_sent hq w
    refine .inr ?_
    cases ho : o.answer ⟨p.method, p.path⟩ with
    | error e =>
      rw [ho] at hcall
      have hr : r = (.error e, w') := Action.run_bind_error hcall
      exact .inl ⟨q, o, w', e, rfl, hx, hr, .inl ho⟩
    | ok a =>
      rw [ho] at hcall
      have hv := Outcome.value?_of_ok ho
      have hr : r = _ := Action.run_bind_ok hcall
      cases hp : Page.ofAnswer a with
      | error e =>
        have hbad : ∀ b : PageAnswer, a ≠ b.toJson := by
          rintro b rfl
          rw [b.ofAnswer_toJson] at hp
          exact absurd hp (by simp)
        have hread :
            (Action.ofExcept (Page.ofAnswer a) : Action σ Page).run w' = (.error e, w') := by
          rw [hp, Action.run_ofExcept]
        exact .inl ⟨q, o, w', e, rfl, hx, hr.trans (Action.run_bind_error hread),
          .inr ⟨a, hv, hbad⟩⟩
      | ok page =>
        have hread :
            (Action.ofExcept (Page.ofAnswer a) : Action σ Page).run w' = (.ok page, w') := by
          rw [hp, Action.run_ofExcept]
        refine .inr ⟨q, o, w', a, page, rfl, hx, hv, hp, hr.trans (Action.run_bind_ok hread), ?_⟩
        intro hnext
        obtain ⟨c, hc⟩ := Option.isSome_iff_exists.mp hnext
        exact hnear (announcesMore_of_next hv hp hc)

/-! ### Taking items -/

/-- An item in hand is taken without a request. -/
theorem nextWithin_cons (n : Nat) {p : Pager} {x : Json} {rest : List Json}
    (h : p.buffer = x :: rest) :
    nextWithin ch n p = pure (some (x, { p with buffer := rest })) := by
  obtain ⟨method, path, args, buffer, pending⟩ := p
  obtain rfl : buffer = x :: rest := h
  cases n <;> rfl

/-- Where nothing is left and no page is announced, the list ends. -/
theorem nextWithin_nothing (n : Nat) {p : Pager} (hb : p.buffer = []) (hp : p.pending = .nothing) :
    nextWithin ch n p = pure none := by
  obtain ⟨method, path, args, buffer, pending⟩ := p
  obtain rfl : buffer = [] := hb
  obtain rfl : pending = .nothing := hp
  cases n <;> rfl

/-- Where nothing is left, the page that is announced is read. -/
theorem nextWithin_page (n : Nat) {p : Pager} {cursor : Option Json} (hb : p.buffer = [])
    (hp : p.pending = .page cursor) :
    nextWithin ch (n + 1) p = load ch p cursor >>= nextWithin ch n := by
  obtain ⟨method, path, args, buffer, pending⟩ := p
  obtain rfl : buffer = [] := hb
  obtain rfl : pending = .page cursor := hp
  rfl

/-- Where no page is announced, it does not matter how many may still be read. -/
theorem nextWithin_of_nothing (n m : Nat) {p : Pager} (hp : p.pending = .nothing) :
    nextWithin ch n p = nextWithin ch m p := by
  cases hb : p.buffer with
  | nil => rw [nextWithin_nothing ch n hb hp, nextWithin_nothing ch m hb hp]
  | cons x rest => rw [nextWithin_cons ch n hb, nextWithin_cons ch m hb]

/-- **Nor does it matter otherwise**, as long as it is more than can be announced. -/
theorem nextWithin_of_horizon : ∀ (n m : Nat) (p : Pager) (w : World σ),
    ch.network.horizon w.peer < n → ch.network.horizon w.peer < m →
    (nextWithin ch n p).run w = (nextWithin ch m p).run w
  | 0, _, _, _, hn, _ => absurd hn (Nat.not_lt_zero _)
  | _, 0, _, _, _, hm => absurd hm (Nat.not_lt_zero _)
  | n + 1, m + 1, p, w, hn, hm => by
      cases hp : p.pending with
      | nothing => rw [nextWithin_of_nothing ch (n + 1) (m + 1) hp]
      | page cursor =>
        cases hb : p.buffer with
        | cons x rest => rw [nextWithin_cons ch (n + 1) hb, nextWithin_cons ch (m + 1) hb]
        | nil =>
          rw [nextWithin_page ch n hb hp, nextWithin_page ch m hb hp]
          rcases load_cases ch p cursor w with ⟨e, -, hload⟩ | ⟨q, o, w', e, -, -, hload, -⟩ |
            ⟨q, o, w', a, page, -, -, -, -, hload, hnear⟩
          · rw [Action.run_bind_error hload, Action.run_bind_error hload]
          · rw [Action.run_bind_error hload, Action.run_bind_error hload]
          · rw [Action.run_bind_ok hload, Action.run_bind_ok hload]
            cases hnext : page.next with
            | some c =>
              have hless := hnear (hnext ▸ rfl)
              exact nextWithin_of_horizon n m _ w' (by omega) (by omega)
            | none => rw [nextWithin_of_nothing ch n m (by rw [turned, hnext])]

/-- Taking an item is taking one from as many pages as can be announced. -/
theorem run_next? (p : Pager) (w : World σ) :
    (p.next? ch).run w = (nextWithin ch (ch.network.horizon w.peer + 1) p).run w := rfl

/-- Where reading a page fails, so does taking an item that is not in hand. -/
theorem next?_of_load_error {p : Pager} {cursor : Option Json} {w w' : World σ} {e : Fault}
    (hb : p.buffer = []) (hp : p.pending = .page cursor)
    (hload : (p.load ch cursor).run w = (.error e, w')) :
    (p.next? ch).run w = (.error e, w') := by
  rw [run_next?, nextWithin_page ch _ hb hp]
  exact Action.run_bind_error hload

/-- **Taking an item that is not in hand** is reading the page that is announced, and then taking an
item of what is read. -/
theorem next?_of_load {p : Pager} {cursor : Option Json} {args : Fields} {page : Page}
    {w w' : World σ} (hb : p.buffer = []) (hp : p.pending = .page cursor)
    (hload : (p.load ch cursor).run w = (.ok (p.turned args page), w'))
    (hnear : page.next.isSome → ch.network.horizon w'.peer < ch.network.horizon w.peer) :
    (p.next? ch).run w = ((p.turned args page).next? ch).run w' := by
  rw [run_next?, run_next?, nextWithin_page ch _ hb hp, Action.run_bind_ok hload]
  cases hnext : page.next with
  | some c => exact nextWithin_of_horizon ch _ _ _ w' (hnear (hnext ▸ rfl)) (Nat.lt_succ_self _)
  | none => rw [nextWithin_of_nothing ch _ _ (by rw [turned, hnext])]

/-! ### Taking all items -/

/-- A list whose items in hand have been taken. -/
def emptied (p : Pager) : Pager :=
  { p with buffer := [] }

namespace Exhausts

variable {ch} {p : Pager} {items : List Json} {result : Except Fault Unit} {w w' w'' : World σ}

/-- **The items in hand come first**, without a request. -/
theorem of_emptied (h : Exhausts ch p.emptied w items result w') :
    Exhausts ch p w (p.buffer ++ items) result w' := by
  obtain ⟨method, path, args, buffer, pending⟩ := p
  induction buffer with
  | nil => exact h
  | cons x rest ih =>
    have htake : (Pager.next? ch ⟨method, path, args, x :: rest, pending⟩).run w
        = (.ok (some (x, ⟨method, path, args, rest, pending⟩)), w) := by
      rw [run_next?, nextWithin_cons ch _ rfl, Action.run_pure]
    exact .item htake (ih h)

/-- Where no page is announced, the items in hand are all. -/
theorem of_nothing (hp : p.pending = .nothing) : Exhausts ch p w p.buffer (.ok ()) w := by
  have hended : Exhausts ch p.emptied w [] (.ok ()) w := by
    refine .ended ?_
    rw [run_next?, nextWithin_nothing ch _ (p := p.emptied) rfl hp, Action.run_pure]
  have hall := hended.of_emptied
  rwa [List.append_nil] at hall

/-- Where taking an item comes to the same, so does taking all. -/
theorem congr {p' : Pager} (hnext : (p.next? ch).run w = (p'.next? ch).run w')
    (h : Exhausts ch p' w' items result w'') : Exhausts ch p w items result w'' := by
  cases h with
  | ended h => exact .ended (hnext.trans h)
  | failed h => exact .failed (hnext.trans h)
  | item h more => exact .item (hnext.trans h) more

/-- **There is one way to take all items.** -/
theorem unique {items' : List Json} {result' : Except Fault Unit}
    (h : Exhausts ch p w items result w') (h' : Exhausts ch p w items' result' w'') :
    items' = items ∧ result' = result ∧ w'' = w' := by
  induction h generalizing items' with
  | ended hnext =>
    cases h' with
    | ended hnext' => exact ⟨rfl, rfl, (Prod.mk.inj (hnext'.symm.trans hnext)).2⟩
    | failed hnext' => exact nomatch hnext'.symm.trans hnext
    | item hnext' => exact nomatch hnext'.symm.trans hnext
  | failed hnext =>
    cases h' with
    | ended hnext' => exact nomatch hnext'.symm.trans hnext
    | failed hnext' =>
      obtain ⟨⟨⟩, hworld⟩ := Prod.mk.inj (hnext'.symm.trans hnext)
      exact ⟨rfl, rfl, hworld⟩
    | item hnext' => exact nomatch hnext'.symm.trans hnext
  | item hnext _ ih =>
    cases h' with
    | ended hnext' => exact nomatch hnext'.symm.trans hnext
    | failed hnext' => exact nomatch hnext'.symm.trans hnext
    | item hnext' more =>
      obtain ⟨⟨⟩, rfl⟩ := Prod.mk.inj (hnext'.symm.trans hnext)
      obtain ⟨rfl, hrest⟩ := ih more
      exact ⟨rfl, hrest⟩

end Exhausts

/-- Draining a list reads the page that is announced, and drains what is read. -/
theorem drainWithin_page (n : Nat) {p : Pager} {cursor : Option Json}
    (hp : p.pending = .page cursor) :
    drainWithin ch (n + 1) p = load ch p cursor >>= fun next =>
      drainWithin ch n next >>= fun more => pure (p.buffer ++ more) := by
  obtain ⟨method, path, args, buffer, pending⟩ := p
  obtain rfl : pending = .page cursor := hp
  rfl

/-- Where no page is announced, draining a list gives the items in hand. -/
theorem drainWithin_nothing (n : Nat) {p : Pager} (hp : p.pending = .nothing) :
    drainWithin ch n p = pure p.buffer := by
  obtain ⟨method, path, args, buffer, pending⟩ := p
  obtain rfl : pending = .nothing := hp
  exact Channel.drainWithin_nothing ch n method path args buffer

/-- Draining a list gives the items in hand, and then what draining the rest gives. -/
theorem drainWithin_emptied (n : Nat) (p : Pager) :
    drainWithin ch n p
      = drainWithin ch n p.emptied >>= fun more => pure (p.buffer ++ more) := by
  cases hp : p.pending with
  | nothing =>
    rw [drainWithin_nothing ch n hp, drainWithin_nothing ch n (p := p.emptied) hp]
    exact congrArg pure (List.append_nil p.buffer).symm
  | page cursor =>
    cases n with
    | zero =>
      obtain ⟨method, path, args, buffer, pending⟩ := p
      obtain rfl : pending = .page cursor := hp
      exact congrArg pure (List.append_nil buffer).symm
    | succ n =>
      rw [drainWithin_page ch n hp, drainWithin_page ch n (p := p.emptied) hp, Action.bind_assoc]
      refine congrArg (load ch p cursor >>= ·) (funext fun next => ?_)
      rw [Action.bind_assoc]
      rfl

/-- **Taking all items of a list** reads it page by page, and gives what the pages list; draining
the list gives the same items, or the same fault. -/
theorem exists_exhausts (given : Fields) : ∀ (n : Nat) (p : Pager) (cursor : Option Json)
    (w : World σ), ch.network.horizon w.peer < n → p.buffer = [] → p.pending = .page cursor →
    KeepsGiven p.method given p.args →
    ∃ items result w' t pages, Exhausts ch p w items result w' ∧ ch.Exchanged w t w' ∧
      ReadsPages ch.connection p.method p.path given cursor t pages result ∧
      items = pages.flatMap (·.items) ∧
      (drainWithin ch n p).run w = (result.map fun _ => items, w')
  | 0, _, _, _, hn, _, _, _ => absurd hn (Nat.not_lt_zero _)
  | n + 1, p, cursor, w, hn, hb, hp, hkeeps => by
      have hargs := hkeeps.asksFor cursor
      rw [drainWithin_page ch n hp, hb]
      rcases load_cases ch p cursor w with ⟨e, hq, hload⟩ | ⟨q, o, w', e, hq, hx, hload, hwhy⟩ |
        ⟨q, o, w', a, page, hq, hx, hv, hpage, hload, hnear⟩
      · exact ⟨[], .error e, w, [], [], .failed (next?_of_load_error ch hb hp hload), .refl w,
          .of_refused hargs hq, rfl, Action.run_bind_error hload⟩
      · exact ⟨[], .error e, w', [(q, o)], [], .failed (next?_of_load_error ch hb hp hload), hx,
          .of_failed hargs hq hwhy, rfl, Action.run_bind_error hload⟩
      · have hstep := next?_of_load ch hb hp hload hnear
        rw [Action.run_bind_ok hload]
        cases hnext : page.next with
        | none =>
          have hpending : (p.turned (pageArguments p.method cursor p.args) page).pending
              = .nothing := by rw [turned, hnext]
          refine ⟨page.items, .ok (), w', [(q, o)], [page], ?_, hx,
            .of_last hargs hq hv hpage hnext, (List.flatMap_singleton ..).symm, ?_⟩
          · exact (Exhausts.of_nothing hpending).congr hstep
          · rw [drainWithin_nothing ch n hpending]
            rfl
        | some c =>
          have hless := hnear (hnext ▸ rfl)
          have hpending : (p.turned (pageArguments p.method cursor p.args) page).pending
              = .page (some c) := by rw [turned, hnext]
          -- the items of this page are in hand, so the rest is read as if it were empty
          obtain ⟨items, result, w'', t, pages, hall, hx', hreads, hitems, hrest⟩ :=
            exists_exhausts given n (p.turned (pageArguments p.method cursor p.args) page).emptied
              (some c) w' (by omega) rfl hpending hargs.toKeepsGiven
          refine ⟨page.items ++ items, result, w'', (q, o) :: t, page :: pages,
            hall.of_emptied.congr hstep, hx.trans hx', .cons hargs hq hv hpage hnext hreads, ?_, ?_⟩
          · rw [List.flatMap_cons, hitems]
          · rw [drainWithin_emptied, Action.run_bind, Action.run_bind, hrest]
            cases result <;> rfl

/-! ## Lists -/

/-- **A list is read page by page and nothing of it is lost, repeated or mixed.**  Taking its items
one by one comes to an end, and to one only: it asks for the first page, then for the page that each
answer announces, up to the first answer that announces none, or to a request that fails; it gives
the items of the pages in order, as many as had come before a failure.  Taking the whole list at
once requests the same, and gives the same items or the same fault. -/
theorem read_page_by_page (method path : String) (given : Fields) (w : World σ) :
    ∃ items result w' t pages,
      (Pager.start method path given).Exhausts ch w items result w' ∧
      (∀ items' result' w'', (Pager.start method path given).Exhausts ch w items' result' w'' →
        items' = items ∧ result' = result ∧ w'' = w') ∧
      ch.Exchanged w t w' ∧
      ReadsPages ch.connection method path given none t pages result ∧
      items = pages.flatMap (·.items) ∧
      ((Pager.start method path given).toList ch).run w = (result.map fun _ => items, w') := by
  obtain ⟨items, result, w', t, pages, hall, hread⟩ :=
    exists_exhausts ch given (ch.network.horizon w.peer + 1) (Pager.start method path given) none w
      (Nat.lt_succ_self _) rfl rfl (KeepsGiven.refl method given)
  exact ⟨items, result, w', t, pages, hall, fun _ _ _ hall' => hall.unique hall', hread⟩

end Blocking.Pager

end PageSync
