import PageSync.Proofs.Batches
import PageSync.Proofs.Delivery.Batch
import PageSync.Proofs.Page.Host
import PageSync.Proofs.Page.Stages

/-!
# Proofs/Page/Convergence — replacing a page converges

Replacing the content of a page deletes what is listed and delivers the new blocks, so an attempt
that ends well leaves exactly its own blocks, whatever half-done attempts left before it.  What
carries the proof is `Settles`: up to its last call an operation keeps the properties of the page,
and it fails only where a call met a mishap.
-/

namespace PageSync

namespace PageHost

open Blocking

/-! ## What operations on a kept page leave -/

/-- Between two worlds no call has touched the properties of the page. -/
def Kept (w w' : World HostState) : Prop :=
  ∃ made : List PageCall, w'.peer.calls = w.peer.calls ++ made ∧ (∀ c ∈ made, c.isUpdate = false) ∧
    w'.peer.page.properties = w.peer.page.properties

/-- Between two worlds a call has met a mishap. -/
def Struck (h : PageHost) (w w' : World HostState) : Prop :=
  ∃ n, w.peer.calls.length ≤ n ∧ n < w'.peer.calls.length ∧ (h.mishap n).isSome

/-- **What comes of an operation**: the properties are kept, and either a value and a page that
belong together, or a fault because a call met a mishap. -/
def Settles {α : Type} (h : PageHost) (w : World HostState) (r : Except Fault α × World HostState)
    (Q : α → StoredPage → Prop) : Prop :=
  Kept w r.2 ∧ (∀ x, r.1 = .ok x → Q x r.2.peer.page) ∧ (∀ e, r.1 = .error e → Struck h w r.2)

theorem Kept.refl (w : World HostState) : Kept w w :=
  ⟨[], (List.append_nil _).symm, fun _ hc => absurd hc List.not_mem_nil, rfl⟩

theorem Kept.trans {w w' w'' : World HostState} (h : Kept w w') (h' : Kept w' w'') :
    Kept w w'' := by
  obtain ⟨made, hcalls, hmade, hprops⟩ := h
  obtain ⟨made', hcalls', hmade', hprops'⟩ := h'
  refine ⟨made ++ made', ?_, fun c hc => ?_, hprops'.trans hprops⟩
  · rw [hcalls', hcalls, List.append_assoc]
  · exact (List.mem_append.mp hc).elim (hmade c) (hmade' c)

theorem Kept.length_le {w w' : World HostState} (h : Kept w w') :
    w.peer.calls.length ≤ w'.peer.calls.length := by
  obtain ⟨made, hcalls, -, -⟩ := h
  rw [hcalls, List.length_append]
  exact Nat.le_add_right _ _

/-- A mishap that strikes later strikes. -/
theorem Struck.after {h : PageHost} {w w' w'' : World HostState} (hk : Kept w w')
    (hs : Struck h w' w'') : Struck h w w'' := by
  obtain ⟨n, hn, hn', hm⟩ := hs
  exact ⟨n, hk.length_le.trans hn, hn', hm⟩

namespace Settles

variable {α β : Type} {h : PageHost} {w w' : World HostState} {Q : α → StoredPage → Prop}

/-- A value without a call. -/
theorem of_ok {x : α} (hq : Q x w.peer.page) : Settles h w (.ok x, w) Q :=
  ⟨Kept.refl w, fun _ hx => Except.ok.inj hx ▸ hq, fun _ he => absurd he (by simp)⟩

/-- What is written into the journal changes no page. -/
theorem note (f : Journal → Journal) :
    Settles h w ((Action.note f).run w) fun _ page => page = w.peer.page :=
  ⟨Kept.refl w, fun _ _ => rfl, fun _ he => absurd he (by simp)⟩

/-- What comes of an operation that goes on where another ended. -/
theorem after {r : Except Fault α × World HostState} (hk : Kept w w') (hr : Settles h w' r Q) :
    Settles h w r Q :=
  ⟨hk.trans hr.1, hr.2.1, fun e he => (hr.2.2 e he).after hk⟩

/-- **One operation after the other**: what the first gives, the second begins with. -/
theorem bind {a : Action HostState α} {f : α → Action HostState β} {R : β → StoredPage → Prop}
    (ha : Settles h w (a.run w) Q)
    (hf : ∀ x w', Kept w w' → Q x w'.peer.page → Settles h w' ((f x).run w') R) :
    Settles h w ((a >>= f).run w) R := by
  obtain ⟨hk, hok, herr⟩ := ha
  cases hr : a.run w with
  | mk result w' =>
    rw [hr] at hk hok herr
    cases result with
    | ok x =>
      rw [Action.run_bind_ok hr]
      exact (hf x w' hk (hok x rfl)).after hk
    | error e =>
      rw [Action.run_bind_error hr]
      exact ⟨hk, fun x hx => absurd hx (by simp), fun _ _ => herr e rfl⟩

end Settles

/-! ## The calls -/

theorem properties_effect (h : PageHost) (n : Nat) (p : StoredPage) :
    ∀ call : PageCall, call.isUpdate = false → (h.effect n p call).properties = p.properties
  | .children _, _ => rfl
  | .append page _, _ => by
      rw [effect]
      split <;> rfl
  | .delete block, _ => by
      cases block <;> rfl

/-- **A call that sets no properties** does what it is for and is answered, or meets a mishap. -/
theorem settles_serve (h : PageHost) (call : PageCall) (hc : call.isUpdate = false)
    (w : World HostState) :
    Settles h w ((h.serve call).run w) fun answer page =>
      page = h.effect w.peer.calls.length w.peer.page call ∧
        answer = h.answer w.peer.page page call := by
  have hprops := h.properties_effect w.peer.calls.length w.peer.page call hc
  have hmade : ∀ c ∈ [call], c.isUpdate = false := fun c hm => List.mem_singleton.mp hm ▸ hc
  cases hm : h.mishap w.peer.calls.length with
  | none =>
    rw [run_serve_answered hm]
    refine ⟨⟨[call], rfl, hmade, hprops⟩, ?_, fun e he => absurd he (by simp)⟩
    intro answer ha
    exact ⟨rfl, (Except.ok.inj ha).symm⟩
  | some m =>
    rw [run_serve_struck hm]
    refine ⟨⟨[call], rfl, hmade, ?_⟩, fun x hx => absurd hx (by simp), fun e he => ?_⟩
    · change (if m.tookEffect then _ else _ : StoredPage).properties = _
      split
      · exact hprops
      · rfl
    · refine ⟨w.peer.calls.length, le_rfl, ?_, hm ▸ rfl⟩
      change _ < (w.peer.calls ++ [call]).length
      rw [List.length_append]
      exact Nat.lt_succ_self _

section

variable (h : PageHost) (c : Config) (create : Json → Json → Action HostState Json)

/-- **Deleting the children that are there** leaves none, and counts them. -/
theorem settles_deleteAll : ∀ (children : List Child) (count : Nat) (w : World HostState),
    w.peer.page.children = children →
    Settles h w (((h.writer c create).deleteAll count (children.map (.str ·.id))).run w)
      fun deleted page => deleted = count + children.length ∧ page.children = []
  | [], count, w, hw => Settles.of_ok ⟨rfl, hw⟩
  | child :: rest, count, w, hw => by
      rw [List.map_cons, PageWriter.deleteAll]
      refine (h.settles_serve (.delete (.str child.id)) rfl w).bind fun _ w' _ hpage => ?_
      have hrest : w'.peer.page.children = rest := by
        rw [hpage.1]
        exact StoredPage.children_delete_head hw
      obtain ⟨hk, hok, herr⟩ := settles_deleteAll rest (count + 1) w' hrest
      refine ⟨hk, fun deleted hd => ?_, herr⟩
      rw [List.length_cons, Nat.add_comm rest.length, ← Nat.add_assoc]
      exact hok deleted hd

/-- What has come with an append can be read. -/
theorem blockIds_answer (p p' : StoredPage) (batch : List Json) :
    ∃ ids, (h.answer p p' (.append h.id batch)).blockIds = .ok ids := by
  let listed := (p'.children.drop p.children.length).map Child.entries
  let a : ListAnswer := ⟨[("results", .arr (listed.map .obj))], some listed, rfl⟩
  have ha : h.answer p p' (.append h.id batch) = a.toJson := by
    simp only [answer, ListAnswer.toJson, a, listed, List.map_map]
    rfl
  exact ⟨a.ids, ha ▸ a.blockIds_toJson⟩

/-- **Delivering batches** puts them behind what is there, in order. -/
theorem settles_deliverFrom (s : Settings) (total : Nat) :
    ∀ (batches : List (List Json)) (index : Nat) (r : Receipt) (w : World HostState),
    Settles h w ((deliverFrom s (h.writer c create).blocks h.id total index r batches).run w)
      fun _ page => page.contents = w.peer.page.contents ++ batches.flatten
  | [], index, r, w => Settles.of_ok (List.append_nil _).symm
  | batch :: rest, index, r, w => by
      obtain ⟨hk, hok, herr⟩ := h.settles_serve (.append h.id batch) rfl w
      cases hr : (h.serve (.append h.id batch)).run w with
      | mk result w' =>
        rw [hr] at hk hok herr
        cases result with
        | error e =>
          rw [run_deliverFrom_refused hr]
          exact ⟨hk, fun x hx => absurd hx (by simp), fun _ _ => herr e rfl⟩
        | ok answer =>
          obtain ⟨hpage, hanswer⟩ := hok answer rfl
          obtain ⟨ids, hids⟩ := h.blockIds_answer w.peer.page w'.peer.page batch
          rw [run_deliverFrom_arrived hr (hanswer ▸ hids)]
          have hcontents : w'.peer.page.contents = w.peer.page.contents ++ batch := by
            rw [hpage, effect, if_pos rfl, StoredPage.contents_append]
          have ih := settles_deliverFrom s total rest (index + 1) (r.add batch.length ids)
            (w'.note (r.noteArrival s h.id batch.length))
          rw [List.flatten_cons, ← List.append_assoc, ← hcontents]
          exact ih.after hk

/-- **Delivering blocks** puts them behind what is there, in order. -/
theorem settles_deliver (blocks : List Json) (w : World HostState) :
    Settles h w ((deliver c (h.writer c create).blocks h.id blocks).run w)
      fun _ page => page.contents = w.peer.page.contents ++ blocks := by
  rw [deliver]
  refine (h.settles_deliverFrom c create c.settings _ _ 0 .none w).bind fun r w' _ hpage => ?_
  rw [flatten_batchesOf c.toNat_batchSize_pos] at hpage
  exact (Settles.note _).bind fun _ w₁ _ hw₁ => Settles.of_ok ((congrArg _ hw₁).trans hpage)

/-- The children that are listed are read for their identifiers. -/
theorem ids_of_children (p : StoredPage) :
    Json.childIds (p.children.map (.obj ·.entries)) = .ok (p.children.map (.str ·.id)) := by
  have hid : ∀ c ∈ p.children, (c.entries.lookup "id").filter Json.truthy = some (.str c.id) := by
    intro c hc
    rw [Child.entries, Fields.lookup_set_self, Option.filter_some, if_pos]
    exact decide_eq_true (p.id_ne_empty c hc)
  have hmap : p.children.map (Json.obj ·.entries) = (p.children.map Child.entries).map .obj := by
    rw [List.map_map]
    rfl
  rw [hmap, Json.childIds_objects, List.filterMap_map]
  exact congrArg Except.ok (List.filterMap_eq_map_iff_forall_eq_some.mpr hid)

/-- **Renewing the page** leaves exactly the blocks, and counts the children that were there. -/
theorem settles_renew (blocks : List Json) (w : World HostState) :
    Settles h w (((h.writer c create).renew h.id blocks).run w)
      fun done page => page.contents = blocks ∧ done.1 = w.peer.page.children.length := by
  rw [PageWriter.renew]
  refine (h.settles_serve (.children h.id) rfl w).bind fun answer w' _ hlist => ?_
  have hpage : w'.peer.page = w.peer.page := hlist.1
  have hanswer : answer.elements = .ok (w'.peer.page.children.map (.obj ·.entries)) := by
    rw [hlist.2, PageHost.answer, if_pos rfl, hpage]
    rfl
  rw [hanswer, Action.run_bind_ok (Action.run_ofExcept _ _), ids_of_children,
    Action.run_bind_ok (Action.run_ofExcept _ _), PageWriter.turnOver, ← hpage]
  refine (h.settles_deleteAll c create _ 0 w' rfl).bind fun deleted w₁ _ hdel => ?_
  refine (Settles.note _).bind fun _ w₂ _ hnote => ?_
  refine (h.settles_deliver c create blocks w₂).bind fun receipt w₃ _ hnew => ?_
  refine Settles.of_ok ⟨hnew.trans ?_, hdel.1.trans (Nat.zero_add _)⟩
  rw [hnote, StoredPage.contents, hdel.2, List.map_nil, List.nil_append]

/-- **Writing properties** that are given is one call, which sets them or meets a mishap. -/
theorem run_mark_given (fields : Fields) (hf : fields ≠ []) (w : World HostState) :
    let r := ((h.writer c create).mark h.id (.obj fields)).run w
    r.2.peer.calls = w.peer.calls ++ [.update h.id (.obj fields)] ∧
      (r.1 = .ok () → r.2.peer.page = w.peer.page.update fields) ∧
      (∀ e, r.1 = .error e → Struck h w r.2) := by
  intro r
  have ht : (Json.obj fields).truthy = true := by simpa [Json.truthy] using hf
  have hr : r = ((h.serve (.update h.id (.obj fields)) >>= fun _ => pure ()).run w) := by
    change ((h.writer c create).mark h.id (.obj fields)).run w = _
    rw [PageWriter.mark, if_pos ht]
    rfl
  cases hm : h.mishap w.peer.calls.length with
  | none =>
    rw [hr, Action.run_bind_ok (run_serve_answered hm), effect, if_pos rfl]
    exact ⟨rfl, fun _ => rfl, fun e he => absurd he (by simp)⟩
  | some m =>
    rw [hr, Action.run_bind_error (run_serve_struck hm)]
    refine ⟨rfl, fun he => absurd he (by simp), fun e _ => ⟨_, le_rfl, ?_, hm ▸ rfl⟩⟩
    change _ < (w.peer.calls ++ [_]).length
    rw [List.length_append]
    exact Nat.lt_succ_self _

/-- Without properties there is nothing to write. -/
theorem run_mark_none {properties : Json} (hp : properties.truthy = false) (w : World HostState) :
    ((h.writer c create).mark h.id properties).run w = (.ok (), w) := by
  rw [PageWriter.mark, if_neg (by simp [hp])]
  rfl

end

/-! ## Attempts -/

/-- An attempt to replace the content of the page, with the properties that mark it as done. -/
structure Attempt where
  blocks : List Json
  properties : Option Fields
  nodup_names : (properties.getD []).names.Nodup

namespace Attempt

/-- The properties that an attempt gives; without any there are none to be set. -/
def given (a : Attempt) : Fields :=
  a.properties.getD []

/-- Without any properties nothing is written, else an object of what is given. -/
theorem argument_cases (a : Attempt) :
    (a.given = [] ∧ (a.properties.elim Json.null .obj).truthy = false) ∨
      (a.given ≠ [] ∧ a.properties.elim Json.null .obj = .obj a.given) := by
  obtain ⟨blocks, properties, hn⟩ := a
  match properties with
  | none => exact .inl ⟨rfl, rfl⟩
  | some [] => exact .inl ⟨rfl, rfl⟩
  | some (_ :: _) => exact .inr ⟨List.cons_ne_nil _ _, rfl⟩

/-- What an attempt gives and leaves: only its last call sets properties; when it ends well the page
is as it asked for, and when it does not a call met a mishap. -/
def Meets (a : Attempt) (h : PageHost) (w : World HostState)
    (r : Except Fault (Nat × Receipt) × World HostState) : Prop :=
  ∃ made : List PageCall, r.2.peer.calls = w.peer.calls ++ made ∧
    (∀ call ∈ made.dropLast, call.isUpdate = false) ∧
    (∀ done, r.1 = .ok done →
      r.2.peer.page.contents = a.blocks ∧ done.1 = w.peer.page.children.length ∧
        r.2.peer.page.properties = w.peer.page.properties.setAll a.given) ∧
    (∀ e, r.1 = .error e → Struck h w r.2 ∧
      ((∀ last ∈ made.getLast?, last.isUpdate = false) →
        r.2.peer.page.properties = w.peer.page.properties))

section

variable {a : Attempt} {h : PageHost} {w w' w'' : World HostState}

/-- An attempt that fails before the properties are written leaves them. -/
theorem Meets.of_error {e : Fault} (hk : Kept w w') (hs : Struck h w w') :
    a.Meets h w (.error e, w') := by
  obtain ⟨made, hcalls, hmade, hprops⟩ := hk
  exact ⟨made, hcalls, fun _ hc => hmade _ (List.dropLast_subset _ hc),
    fun _ hd => absurd hd (by simp), fun _ _ => ⟨hs, fun _ => hprops⟩⟩

/-- An attempt that has no properties to write ends with the content. -/
theorem Meets.of_content {done : Nat × Receipt} (hk : Kept w w') (hgiven : a.given = [])
    (hcontents : w'.peer.page.contents = a.blocks) (hcount : done.1 = w.peer.page.children.length) :
    a.Meets h w (.ok done, w') := by
  obtain ⟨made, hcalls, hmade, hprops⟩ := hk
  refine ⟨made, hcalls, fun _ hc => hmade _ (List.dropLast_subset _ hc), fun _ hd => ?_,
    fun _ he => absurd he (by simp)⟩
  obtain rfl := Except.ok.inj hd
  exact ⟨hcontents, hcount, hgiven ▸ hprops⟩

/-- Writing the properties is the last call of an attempt. -/
theorem Meets.of_mark {result : Except Fault Unit} {done : Nat × Receipt} {properties : Json}
    (hk : Kept w w') (hcontents : w'.peer.page.contents = a.blocks)
    (hcount : done.1 = w.peer.page.children.length)
    (hcalls' : w''.peer.calls = w'.peer.calls ++ [.update h.id properties])
    (hset : result = .ok () → w''.peer.page = w'.peer.page.update a.given)
    (hstruck : ∀ e, result = .error e → Struck h w' w'') :
    a.Meets h w (result.map fun _ => done, w'') := by
  have hkept := hk
  obtain ⟨made, hcalls, hmade, hprops⟩ := hk
  refine ⟨made ++ [.update h.id properties], ?_, fun call hc => ?_, fun _ hd => ?_, fun _ he => ?_⟩
  · rw [hcalls', hcalls, List.append_assoc]
  · rw [List.dropLast_concat] at hc
    exact hmade call hc
  · cases result with
    | error e => exact absurd hd (by simp [Except.map])
    | ok _ =>
      obtain rfl : done = _ := Except.ok.inj hd
      have hpage : w''.peer.page = w'.peer.page.update a.given := hset rfl
      refine ⟨?_, hcount, ?_⟩
      · rw [hpage, StoredPage.contents, StoredPage.children_update]
        exact hcontents
      · rw [hpage, StoredPage.update, hprops]
  · cases result with
    | ok _ => exact absurd he (by simp [Except.map])
    | error e =>
      refine ⟨(hstruck e rfl).after hkept, fun hlast => ?_⟩
      have hupdate := hlast (.update h.id properties) (by simp)
      exact absurd hupdate (by simp [PageCall.isUpdate])

end

section

variable (a : Attempt) (h : PageHost) (c : Config) (create : Json → Json → Action HostState Json)

/-- Make an attempt. -/
def run (w : World HostState) : Except Fault (Nat × Receipt) × World HostState :=
  ((h.writer c create).replace h.id a.blocks (a.properties.elim .null .obj)).run w

/-- **An attempt from any world** gives and leaves what is promised of it. -/
theorem meets_run (w : World HostState) : a.Meets h w (a.run h c create w) := by
  rw [run, PageWriter.replace_eq]
  obtain ⟨hk, hok, herr⟩ := h.settles_renew c create a.blocks w
  cases hrenew : ((h.writer c create).renew h.id a.blocks).run w with
  | mk result w' =>
    rw [hrenew] at hk hok herr
    cases result with
    | error e =>
      rw [Action.run_bind_error hrenew]
      exact Meets.of_error hk (herr e rfl)
    | ok done =>
      obtain ⟨hcontents, hcount⟩ := hok done rfl
      rw [Action.run_bind_ok hrenew]
      rcases a.argument_cases with ⟨hgiven, hnone⟩ | ⟨hgiven, hsome⟩
      · rw [Action.run_bind_ok (h.run_mark_none c create hnone w'), Action.run_pure]
        exact Meets.of_content hk hgiven hcontents hcount
      · obtain ⟨hcalls', hset, hstruck⟩ := h.run_mark_given c create a.given hgiven w'
        have hmap : ((h.writer c create).mark h.id (.obj a.given) >>= fun _ => pure done).run w'
            = ((((h.writer c create).mark h.id (.obj a.given)).run w').1.map fun _ => done,
              (((h.writer c create).mark h.id (.obj a.given)).run w').2) := by
          rw [Action.run_bind]
          cases ((h.writer c create).mark h.id (.obj a.given)).run w' with
          | mk result w'' => cases result <;> rfl
        rw [hsome, hmap]
        exact Meets.of_mark hk hcontents hcount hcalls' hset hstruck

/-- What is left after attempts, made one after the other whatever came of those before. -/
def leave : List Attempt → World HostState → World HostState
  | [], w => w
  | a :: rest, w => leave rest (a.run h c create w).2

end

end Attempt

/-- **Replacing the content of a page converges under any mishaps.**  Whatever attempts were made
before and wherever they failed: an attempt that ends well leaves exactly its blocks, has counted
the children that it found, and has set its properties; and an attempt fails only where one of its
calls met a mishap, and then leaves the properties as they were, unless that call was to set
them. -/
theorem replace_converges (h : PageHost) (c : Config)
    (create : Json → Json → Action HostState Json) (page : StoredPage) (j : Journal)
    (closed : Bool) (earlier : List Attempt) (a : Attempt) :
    let w := Attempt.leave h c create earlier ⟨⟨page, []⟩, j, closed⟩
    let run := ((h.writer c create).replace h.id a.blocks (a.properties.elim .null .obj)).run w
    let before := w.peer.page
    let after := run.2.peer.page
    ∃ made : List PageCall, run.2.peer.calls = w.peer.calls ++ made ∧
      (∀ deleted receipt, run.1 = .ok (deleted, receipt) →
        after.contents = a.blocks ∧ deleted = before.children.length ∧
          ∀ name, after.properties.lookup name
            = (a.given.lookup name).or (before.properties.lookup name)) ∧
      (∀ fault, run.1 = .error fault →
        (∃ n, w.peer.calls.length ≤ n ∧ n < run.2.peer.calls.length ∧ (h.mishap n).isSome) ∧
        ((∀ last ∈ made.getLast?, last.isUpdate = false) →
          after.properties = before.properties)) ∧
      ∀ call ∈ made.dropLast, call.isUpdate = false := by
  intro w run before after
  obtain ⟨made, hcalls, hupdates, hok, herr⟩ := a.meets_run h c create w
  refine ⟨made, hcalls, fun deleted receipt hd => ?_, herr, hupdates⟩
  obtain ⟨hcontents, hcount, hprops⟩ := hok _ hd
  refine ⟨hcontents, hcount, fun name => ?_⟩
  exact (congrArg (·.lookup name) hprops).trans
    (Fields.lookup_setAll a.given before.properties name a.nodup_names)

/-- A deletion takes effect but is not answered; the attempt ends there, and the next one goes on
from what is left. -/
example :
    let page : StoredPage := ⟨[⟨"a", .null⟩, ⟨"b", .null⟩, ⟨"c", .null⟩], [], by decide, by decide⟩
    let unanswered : Mishap := ⟨.server, "", [], none, true⟩
    let h : PageHost := ⟨.str "p", fun n => if n = 2 then some unanswered else none,
      fun _ => NewIds.fresh⟩
    let a : Attempt := ⟨[.int 1, .int 2], some [("Modified", .int 3)], by decide⟩
    let c : Config := ⟨.default, rfl⟩
    let create (_ _ : Json) : Action HostState Json := pure .null
    let w := Attempt.leave h c create [a] ⟨⟨page, []⟩, .empty, false⟩
    let run := a.run h c create w
    w.peer.page.contents = [.null] ∧ run.1.toOption.map (·.1) = some 1 ∧
      run.2.peer.page.contents = [.int 1, .int 2] ∧
      run.2.peer.page.properties = [("Modified", .int 3)] := by
  decide +kernel

end PageHost

end PageSync
