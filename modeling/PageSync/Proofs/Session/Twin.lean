import PageSync.Proofs.Service.Pagination
import PageSync.Proofs.Session.Operation

/-!
# Proofs/Session/Twin — the client that gives way does what the client that blocks does

A task runs as an action does when both come from every world to the same end (`Task.RunsAs`).  This
is kept by everything that programs are put together from, so each part of the suspending stack runs
as the part of that name in the blocking one.  Only lists are read in another way: here a body is
handed the items of a page as it arrives, there a pager keeps the items that have not been taken.
`runsAs_eachFrom_collect` and `runsAs_eachFrom_first` say that both ask for the same pages, for a
consumer that takes all items and for one that takes the first.
-/

namespace PageSync.Suspending

open Blocking (Action Pager Pending)

variable {σ α β : Type}

/-! ## Tasks and actions -/

namespace Task

/-- A task comes from every world to the same end as an action. -/
def RunsAs (t : Task σ α) (a : Action σ α) : Prop :=
  ∀ w, t.run w = a.run w

namespace RunsAs

theorem pure (x : α) : (Pure.pure x : Task σ α).RunsAs (Pure.pure x) :=
  fun _ => rfl

theorem fail (fault : Fault) : (Task.fail fault : Task σ α).RunsAs (.fail fault) :=
  fun _ => rfl

theorem ofExcept (x : Except Fault α) : (Task.ofExcept x : Task σ α).RunsAs (.ofExcept x) :=
  fun _ => rfl

theorem note (f : Journal → Journal) : (Task.note f : Task σ Unit).RunsAs (.note f) :=
  fun _ => rfl

theorem noting (f : Journal → α × Journal) : (Task.noting f : Task σ α).RunsAs (.noting f) :=
  fun _ => rfl

/-- **What follows is run from the same world with the same value.** -/
theorem bind {t : Task σ α} {a : Action σ α} {f : α → Task σ β} {g : α → Action σ β}
    (h : t.RunsAs a) (hf : ∀ x, (f x).RunsAs (g x)) : (t >>= f).RunsAs (a >>= g) := by
  intro w
  rw [Task.run_bind, Action.run_bind, h w]
  rcases a.run w with ⟨e | x, w'⟩
  · rfl
  · exact hf x w'

theorem attempt {t : Task σ α} {a : Action σ α} (h : t.RunsAs a) : t.attempt.RunsAs a.attempt := by
  intro w
  rw [Task.run_attempt, Action.run_attempt, h w]

end RunsAs

end Task

/-! ## Calls -/

namespace Channel

/-- The blocking channel over the same connection to the same network. -/
def blocking (ch : Channel σ) : Blocking.Channel σ :=
  ⟨ch.connection, ch.network⟩

theorem runsAs_await (ch : Channel σ) (q : Request) :
    (ch.await q).RunsAs (ch.blocking.exchange q) :=
  fun _ => rfl

/-- **A call is one request with the same outcome**, or refused without one. -/
theorem runsAs_call (ch : Channel σ) (method path : String) (args : Fields) :
    (ch.call method path args).RunsAs (ch.blocking.call method path args) := by
  intro w
  rw [call, Blocking.Channel.call]
  change _ = Action.run (Action.ofExcept (ch.connection.request method path args) >>= _) w
  rw [Action.run_bind, Action.run_ofExcept]
  cases ch.connection.request method path args with
  | error fault => rfl
  | ok q => exact ((ch.runsAs_await q).bind fun _ => (Task.RunsAs.note _).bind fun _ =>
      Task.RunsAs.ofExcept _) w

end Channel

/-! ## Lists -/

namespace Listing

variable (ch : Channel σ) (method path : String)

/-- The body that collects all items. -/
def collect (items : List Json) (x : Json) : Flow (List Json) (List Json) :=
  .next (items ++ [x])

/-- The body that stops at the first item. -/
def first (_ : Unit) (x : Json) : Flow Json Unit :=
  .stop x

theorem handOut_collect : ∀ items page, handOut collect items page = .next (items ++ page)
  | items, [] => by rw [List.append_nil]; rfl
  | items, x :: rest => by
    change handOut collect (items ++ [x]) rest = _
    rw [handOut_collect (items ++ [x]) rest, List.append_assoc, List.singleton_append]

/-- **A list asks for the page that a pager reads**, and what either does then decides. -/
theorem runsAs_page (args : Fields) (cursor : Option Json) (buffer : List Json) (pending : Pending)
    {k : Page → Task σ α} {f : Pager → Action σ α}
    (hf : ∀ page, (k page).RunsAs (f (Pager.turned ⟨method, path, args, buffer, pending⟩
      (pageArguments method cursor args) page))) :
    (page ch method path (pageArguments method cursor args) >>= k).RunsAs
      (Pager.load ch.blocking ⟨method, path, args, buffer, pending⟩ cursor >>= f) := by
  have hload : Pager.load ch.blocking ⟨method, path, args, buffer, pending⟩ cursor >>= f = (do
      let page ← ch.blocking.call method path (pageArguments method cursor args) >>= fun answer =>
        Action.ofExcept (Page.ofAnswer answer)
      f (Pager.turned ⟨method, path, args, buffer, pending⟩ (pageArguments method cursor args)
        page)) := by
    simp only [Pager.load, Action.bind_assoc]
    rfl
  rw [hload]
  refine Task.RunsAs.bind ?_ hf
  exact (ch.runsAs_call method path _).bind fun answer => .ofExcept _

/-- **Collecting reads the pages that a pager reads** to its end. -/
theorem runsAs_eachFrom_collect (n : Nat) : ∀ (args : Fields) (cursor : Option Json)
    (items : List Json), (eachFrom ch method path collect n args cursor items).RunsAs (do
      let rest ← Pager.drainWithin ch.blocking (n + 1) ⟨method, path, args, [], .page cursor⟩
      return .next (items ++ rest)) := by
  induction n with
  | zero =>
    intro args cursor items
    rw [eachFrom, Pager.drainWithin_page _ _ rfl, Action.bind_assoc]
    refine runsAs_page ch method path args cursor [] _ fun page => ?_
    rw [handOut_collect]
    rcases page with ⟨page, - | next⟩
    · exact .pure _
    · exact .pure _
  | succ n ih =>
    intro args cursor items
    rw [eachFrom, Pager.drainWithin_page _ _ rfl, Action.bind_assoc]
    refine runsAs_page ch method path args cursor [] _ fun page => ?_
    rw [handOut_collect]
    rcases page with ⟨page, - | next⟩
    · exact .pure _
    -- the body has the items of this page already, the pager adds them when it comes back
    · have h := ih (pageArguments method cursor args) (some next) (items ++ page)
      rw [Pager.drainWithin_emptied]
      simp only [Action.bind_assoc, List.append_assoc] at h ⊢
      exact h

/-- **Stopping at the first item reads the pages that a pager reads** until it has one. -/
theorem runsAs_eachFrom_first (n : Nat) : ∀ (args : Fields) (cursor : Option Json),
    (eachFrom ch method path first n args cursor ()).RunsAs (do
      match ← Pager.nextWithin ch.blocking (n + 1) ⟨method, path, args, [], .page cursor⟩ with
      | some (x, _) => return .stop x
      | none => return .next ()) := by
  induction n with
  | zero =>
    intro args cursor
    rw [eachFrom, Pager.nextWithin_page _ _ rfl rfl, Action.bind_assoc]
    refine runsAs_page ch method path args cursor [] _ fun page => ?_
    rcases page with ⟨- | ⟨x, rest⟩, - | next⟩
    all_goals exact .pure _
  | succ n ih =>
    intro args cursor
    rw [eachFrom, Pager.nextWithin_page _ _ rfl rfl, Action.bind_assoc]
    refine runsAs_page ch method path args cursor [] _ fun page => ?_
    rcases page with ⟨- | ⟨x, rest⟩, - | next⟩
    · exact .pure _
    · exact ih (pageArguments method cursor args) (some next)
    · exact .pure _
    · exact .pure _

/-- The bound on the pages to come is the same for both. -/
theorem runsAs_each {body : β → Json → Flow ρ β} {start : β} {args : Fields}
    {g : Nat → Action σ (Flow ρ β)}
    (h : ∀ n, (eachFrom ch method path body n args none start).RunsAs (g (n + 1))) :
    (each ch method path args start body).RunsAs (Pager.pageBound ch.blocking >>= g) := by
  intro w
  exact h (ch.network.horizon w.peer) w

/-- **All items of a list.** -/
theorem runsAs_toList (args : Fields) : (toList ch method path args).RunsAs
    ((Pager.start method path args).toList ch.blocking) := by
  intro w
  have h := runsAs_each ch method path (g := fun bound => do
      let rest ← Pager.drainWithin ch.blocking bound ⟨method, path, args, [], .page none⟩
      return .next ([] ++ rest))
    (fun n => runsAs_eachFrom_collect ch method path n args none []) w
  change Task.run (each ch method path args [] collect >>= _) w = _
  rw [Task.run_bind, h, Pager.toList, Pager.start]
  simp only [Action.run_bind]
  rcases (Pager.pageBound ch.blocking).run w with ⟨e | n, w⟩
  · rfl
  · dsimp only
    rcases (Pager.drainWithin ch.blocking n ⟨method, path, args, [], .page none⟩).run w with
      ⟨e | items, w⟩
    · rfl
    · rfl

/-- **The first item of a list.** -/
theorem runsAs_first? (args : Fields) : (first? ch method path args).RunsAs (do
    return ((← (Pager.start method path args).next? ch.blocking).map (·.1))) := by
  intro w
  have h := runsAs_each ch method path (g := fun bound => do
      match ← Pager.nextWithin ch.blocking bound ⟨method, path, args, [], .page none⟩ with
      | some (x, _) => return .stop x
      | none => return .next ())
    (fun n => runsAs_eachFrom_first ch method path n args none) w
  change Task.run (each ch method path args () first >>= _) w = _
  rw [Task.run_bind, h, Pager.start]
  simp only [Action.run_bind, Pager.next?]
  rcases (Pager.pageBound ch.blocking).run w with ⟨e | n, w⟩
  · rfl
  · dsimp only
    rcases (Pager.nextWithin ch.blocking n ⟨method, path, args, [], .page none⟩).run w with
      ⟨e | - | ⟨x, rest⟩, w⟩
    · rfl
    · rfl
    · rfl

end Listing

/-! ## What is done with blocks and pages -/

/-- What can be done with blocks by tasks is what can be done by actions. -/
structure BlocksRunAs (t : BlocksApi (Task σ)) (a : BlocksApi (Action σ)) : Prop where
  children : ∀ id, (t.children id).RunsAs (a.children id)
  append : ∀ id blocks, (t.append id blocks).RunsAs (a.append id blocks)
  delete : ∀ id, (t.delete id).RunsAs (a.delete id)

/-- What can be done with pages by tasks is what can be done by actions. -/
structure PagesRunAs (t : PagesApi (Task σ)) (a : PagesApi (Action σ)) : Prop where
  create : ∀ parent properties, (t.create parent properties).RunsAs (a.create parent properties)
  update : ∀ id properties, (t.update id properties).RunsAs (a.update id properties)

namespace Channel

variable (ch : Channel σ)

theorem runsAs_queryByKey (database : Json) (property key : String) :
    (ch.queryByKey database property key).RunsAs
      (ch.blocking.queryByKey database property key) := by
  intro w
  rw [queryByKey, Task.run_bind, Listing.runsAs_first?, Action.run_bind]
  rw [Blocking.Channel.queryByKey, Action.run_bind]
  rcases (Pager.next? ch.blocking _).run w with ⟨e | found, w⟩
  · rfl
  · rfl

theorem blocksRunAs : BlocksRunAs ch.blocksApi ch.blocking.blocksApi where
  children id := (Listing.runsAs_toList ch "GET" (Endpoint.childrenPath id) []).bind fun _ =>
    .pure _
  append id _ := ch.runsAs_call "PATCH" (Endpoint.childrenPath id) _
  delete id := ch.runsAs_call "DELETE" (Endpoint.blockPath id) _

theorem pagesRunAs : PagesRunAs ch.pagesApi ch.blocking.pagesApi where
  create _ _ := ch.runsAs_call "POST" Endpoint.pagesPath _
  update id _ := ch.runsAs_call "PATCH" (Endpoint.pagePath id) _

end Channel

/-! ## Delivery and pages -/

section Delivery

variable {t : BlocksApi (Task σ)} {a : BlocksApi (Action σ)}

/-- **Delivering batches**, one after the other, until one fails. -/
theorem runsAs_deliverFrom (h : BlocksRunAs t a) (s : Settings) (parent : Json) (total index : Nat)
    (receipt : Receipt) (batches : List (List Json)) :
    (deliverFrom s t parent total index receipt batches).RunsAs
      (Blocking.deliverFrom s a parent total index receipt batches) := by
  induction batches generalizing index receipt with
  | nil => exact .pure receipt
  | cons batch rest ih =>
    rw [deliverFrom, Blocking.deliverFrom]
    refine (h.append parent batch).attempt.bind fun answer => ?_
    rcases answer with cause | answer
    · rcases hk : cause.kind? with - | kind
      · simp only [hk]
        exact .fail cause
      · simp only [hk]
        exact (Task.RunsAs.note _).bind fun _ => .fail _
    · refine (Task.RunsAs.note _).bind fun _ => ?_
      refine (Task.RunsAs.ofExcept _).bind fun ids => ?_
      refine (Task.RunsAs.note _).bind fun _ => ?_
      exact ih _ _

theorem runsAs_deliver (h : BlocksRunAs t a) (c : Config) (parent : Json) (blocks : List Json) :
    (deliver c t parent blocks).RunsAs (Blocking.deliver c a parent blocks) := by
  refine (runsAs_deliverFrom h c.settings parent _ 0 .none _).bind fun receipt => ?_
  exact (Task.RunsAs.note _).bind fun _ => .pure _

end Delivery

namespace PageWriter

/-- The page writer of tasks works as that of actions, on the same settings and the same means. -/
structure RunsAs (v : PageWriter σ) (w : Blocking.PageWriter σ) : Prop where
  config : v.config = w.config
  pages : PagesRunAs v.pages w.pages
  blocks : BlocksRunAs v.blocks w.blocks

namespace RunsAs

variable {v : PageWriter σ} {w : Blocking.PageWriter σ} (h : v.RunsAs w)
include h

theorem create (parent properties : Json) (blocks : List Json) :
    (v.create parent properties blocks).RunsAs (w.create parent properties blocks) := by
  refine (h.pages.create parent properties).bind fun page => ?_
  refine (Task.RunsAs.ofExcept _).bind fun id => ?_
  rw [h.config]
  exact (runsAs_deliver h.blocks w.config id blocks).bind fun _ => .pure _

theorem deleteAll (count : Nat) (ids : List Json) :
    (v.deleteAll count ids).RunsAs (w.deleteAll count ids) := by
  induction ids generalizing count with
  | nil => exact .pure count
  | cons id rest ih => exact (h.blocks.delete id).bind fun _ => ih (count + 1)

/-- **Replacing content**: listing, deleting, delivering and writing the properties go in step. -/
theorem replace (page : Json) (blocks : List Json) (properties : Json) :
    (v.replace page blocks properties).RunsAs (w.replace page blocks properties) := by
  rw [PageWriter.replace, Blocking.PageWriter.replace, h.config]
  refine (h.blocks.children page).bind fun answer => ?_
  refine (Task.RunsAs.ofExcept _).bind fun children => ?_
  refine (Task.RunsAs.ofExcept _).bind fun ids => ?_
  refine (h.deleteAll 0 ids).bind fun deleted => ?_
  refine (Task.RunsAs.note _).bind fun _ => ?_
  refine (runsAs_deliver h.blocks w.config page blocks).bind fun receipt => ?_
  by_cases hp : properties.truthy
  · simp only [hp, if_true]
    exact (h.pages.update page properties).bind fun _ => .pure _
  · simp only [hp]
    exact .pure _

end RunsAs

end PageWriter

/-! ## Operations and sessions -/

namespace Channel

variable (ch : Channel σ)

theorem writer_runsAs : ch.writer.RunsAs ch.blocking.writer :=
  ⟨rfl, ch.pagesRunAs, ch.blocksRunAs⟩

theorem runsAs_findPage (database : Json) (key : String) :
    (ch.findPage database key).RunsAs (ch.blocking.findPage database key) := by
  refine (ch.runsAs_queryByKey database _ key).bind fun page => ?_
  exact (Task.RunsAs.note _).bind fun _ => .pure _

theorem runsAs_createPageFrom (database : Json) (title markdown : String)
    (key modified : Option String) (extra : Fields) :
    (ch.createPageFrom database title markdown key modified extra).RunsAs
      (ch.blocking.createPageFrom database title markdown key modified extra) := by
  refine (Task.RunsAs.noting _).bind fun conversion => ?_
  refine (ch.writer_runsAs.create _ _ _).bind fun (page, receipt) => ?_
  refine (Task.RunsAs.ofExcept _).bind fun id => ?_
  refine (Task.RunsAs.ofExcept _).bind fun url => ?_
  exact (Task.RunsAs.note _).bind fun _ => .pure _

theorem runsAs_replacePageFrom (page : Json) (markdown : String) (modified : Option String) :
    (ch.replacePageFrom page markdown modified).RunsAs
      (ch.blocking.replacePageFrom page markdown modified) := by
  refine (Task.RunsAs.noting _).bind fun conversion => ?_
  refine (ch.writer_runsAs.replace _ _ _).bind fun (deleted, receipt) => ?_
  exact (Task.RunsAs.note _).bind fun _ => .pure _

/-- **Each operation of the client that gives way is that of the client that blocks.** -/
theorem runsAs_perform (op : Operation) : (ch.perform op).RunsAs (ch.blocking.perform op) := by
  rcases op with markdown | ⟨database, key⟩ | ⟨database, title, markdown, key, modified, extra⟩ |
    ⟨page, markdown, modified⟩
  · exact (Task.RunsAs.noting _).bind fun _ => .pure _
  · exact (ch.runsAs_findPage database key).bind fun _ => .pure _
  · exact (ch.runsAs_createPageFrom database title markdown key modified extra).bind fun _ =>
      .pure _
  · exact (ch.runsAs_replacePageFrom page markdown modified).bind fun _ => .pure _

end Channel

/-- Operations in a row have the same replies and leave the same world. -/
theorem repliesTo_perform (ch : Channel σ) (ops : List Operation) (w : World σ) :
    Operation.repliesTo (fun op => (ch.perform op).run) ops w
      = Operation.repliesTo (fun op => (ch.blocking.perform op).run) ops w :=
  congrArg (Operation.repliesTo · ops w) (funext fun op => funext (ch.runsAs_perform op))

/-- **The client that gives way does what the client that blocks does**: from the same configuration
it is opened or refused alike, and every sequence of operations has the same replies, with the same
requests, records, metrics and texts, and leaves the peer in the same state. -/
theorem session_eq_blocking (k : Config) (n : Network σ) (ops : List Operation) (w : World σ) :
    session k n ops w = Blocking.session k n ops w := by
  rw [session, Blocking.session]
  have hreplies : ∀ c : Connection,
      Operation.repliesTo (fun op => ((⟨c, n⟩ : Channel σ).perform op).run) ops w
        = Operation.repliesTo (fun op => ((⟨c, n⟩ : Blocking.Channel σ).perform op).run) ops w :=
    fun c => repliesTo_perform ⟨c, n⟩ ops w
  exact congrArg (Except.map · (Connection.ofConfig k)) (funext hreplies)

end PageSync.Suspending
