import Mathlib.Data.List.Nodup
import PageSync.Blocking.PageWriter
import PageSync.Proofs.Service.ListAnswer

/-!
# Proofs/Page/Host — a page, and a service that keeps it

A page has children in order, each under an identifier of its own, and properties.  A `PageHost`
keeps one: it lists the children, deletes one, appends a batch under new identifiers, and sets
properties.  Whatever it is asked, a mishap may come instead of the answer, and the call may have
taken effect all the same.  Which calls meet a mishap, and which identifiers are drawn, is left
open.
-/

namespace PageSync

/-! ## The page -/

/-- A child of a page. -/
structure Child where
  id : String
  content : Json

/-- The entries of a child as it is listed: those of its content, under its identifier. -/
def Child.entries (c : Child) : Fields :=
  (c.content.fields?.getD []).set "id" (.str c.id)

/-- The children that contents become under given identifiers. -/
def Child.ofContents (ids : List String) (contents : List Json) : List Child :=
  (ids.zip contents).map fun (id, content) => ⟨id, content⟩

theorem Child.map_id_ofContents {ids : List String} {contents : List Json}
    (h : ids.length = contents.length) : (ofContents ids contents).map (·.id) = ids := by
  rw [ofContents, List.map_map]
  exact List.map_fst_zip (Nat.le_of_eq h)

theorem Child.map_content_ofContents {ids : List String} {contents : List Json}
    (h : ids.length = contents.length) : (ofContents ids contents).map (·.content) = contents := by
  rw [ofContents, List.map_map]
  exact List.map_snd_zip (Nat.le_of_eq h.symm)

/-- A page that is kept by a service. -/
structure StoredPage where
  children : List Child
  properties : Fields
  nodup_ids : (children.map (·.id)).Nodup
  id_ne_empty : ∀ c ∈ children, c.id ≠ ""

/-- So many identifiers that a page does not have yet. -/
structure NewIds (p : StoredPage) (count : Nat) where
  ids : List String
  length_ids : ids.length = count
  nodup_ids : ids.Nodup
  ne_empty : ∀ id ∈ ids, id ≠ ""
  unused : ∀ id ∈ ids, ∀ c ∈ p.children, c.id ≠ id

/-- An identifier that is longer than those of some children. -/
def NewIds.longer (children : List Child) (i : Nat) : String :=
  String.ofList (List.replicate ((children.map (·.id.toList)).flatten.length + 1 + i) 'x')

theorem NewIds.length_longer (children : List Child) (i : Nat) :
    (longer children i).toList.length = (children.map (·.id.toList)).flatten.length + 1 + i := by
  rw [longer, String.toList_ofList, List.length_replicate]

/-- **There are always new identifiers.** -/
def NewIds.fresh (p : StoredPage) (count : Nat) : NewIds p count where
  ids := (List.range count).map (longer p.children)
  length_ids := by rw [List.length_map, List.length_range]
  nodup_ids := by
    refine List.nodup_range.map fun i k h => ?_
    have hl := congrArg (·.toList.length) h
    simp only [length_longer] at hl
    omega
  ne_empty id hid he := by
    obtain ⟨i, -, rfl⟩ := List.mem_map.mp hid
    have hl := congrArg (·.toList.length) he
    simp only [length_longer, String.toList_empty, List.length_nil] at hl
    omega
  unused id hid c hc he := by
    obtain ⟨i, -, rfl⟩ := List.mem_map.mp hid
    have hsub := List.sublist_flatten_of_mem (List.mem_map.mpr ⟨c, hc, rfl⟩ :
      c.id.toList ∈ p.children.map (·.id.toList))
    have hle := hsub.length_le
    rw [he, length_longer] at hle
    omega

namespace StoredPage

/-- The contents of the children, in order. -/
def contents (p : StoredPage) : List Json :=
  p.children.map (·.content)

/-- The page without the child of an identifier. -/
def delete (p : StoredPage) (id : String) : StoredPage where
  children := p.children.filter (·.id ≠ id)
  properties := p.properties
  nodup_ids := p.nodup_ids.sublist (List.filter_sublist.map _)
  id_ne_empty c hc := p.id_ne_empty c (List.mem_of_mem_filter hc)

/-- The page with a batch behind its children. -/
def append (p : StoredPage) (batch : List Json) (new : NewIds p batch.length) : StoredPage where
  children := p.children ++ Child.ofContents new.ids batch
  properties := p.properties
  nodup_ids := by
    rw [List.map_append, Child.map_id_ofContents new.length_ids]
    refine p.nodup_ids.append new.nodup_ids fun id hid hnew => ?_
    obtain ⟨c, hc, rfl⟩ := List.mem_map.mp hid
    exact new.unused _ hnew c hc rfl
  id_ne_empty c hc := by
    rcases List.mem_append.mp hc with hc | hc
    · exact p.id_ne_empty c hc
    · have hid : c.id ∈ (Child.ofContents new.ids batch).map (·.id) := List.mem_map_of_mem hc
      rw [Child.map_id_ofContents new.length_ids] at hid
      exact new.ne_empty _ hid

/-- The page with some properties set. -/
def update (p : StoredPage) (fields : Fields) : StoredPage :=
  { p with properties := p.properties.setAll fields }

@[simp] theorem properties_delete (p : StoredPage) (id : String) :
    (p.delete id).properties = p.properties := rfl

@[simp] theorem properties_append (p : StoredPage) (batch : List Json)
    (new : NewIds p batch.length) : (p.append batch new).properties = p.properties := rfl

@[simp] theorem children_update (p : StoredPage) (fields : Fields) :
    (p.update fields).children = p.children := rfl

/-- A batch comes behind what is there. -/
@[simp] theorem contents_append (p : StoredPage) (batch : List Json)
    (new : NewIds p batch.length) : (p.append batch new).contents = p.contents ++ batch := by
  rw [contents, append, List.map_append, Child.map_content_ofContents new.length_ids, contents]

/-- **Deleting the first child leaves the others**, since no other has its identifier. -/
theorem children_delete_head {p : StoredPage} {c : Child} {rest : List Child}
    (h : p.children = c :: rest) : (p.delete c.id).children = rest := by
  have hn := p.nodup_ids
  rw [h, List.map_cons, List.nodup_cons] at hn
  change p.children.filter (·.id ≠ c.id) = rest
  rw [h, List.filter_cons_of_neg (by simp)]
  refine List.filter_eq_self.mpr fun d hd => decide_eq_true fun he => hn.1 ?_
  exact he ▸ List.mem_map_of_mem hd

end StoredPage

/-! ## The service -/

/-- What a service that keeps a page can be asked for. -/
inductive PageCall where
  | children (page : Json)
  | append (page : Json) (batch : List Json)
  | delete (block : Json)
  | update (page properties : Json)

/-- Whether a call sets properties. -/
def PageCall.isUpdate : PageCall → Bool
  | .update _ _ => true
  | _ => false

/-- An error of the service in place of an answer. -/
structure Mishap where
  kind : ErrorKind
  message : String
  context : Fields
  cause : Option Fault
  /-- Whether the call was carried out all the same. -/
  tookEffect : Bool

/-- The fault that the caller sees. -/
def Mishap.fault (m : Mishap) : Fault :=
  .error m.kind m.message m.context m.cause

/-- **A service that keeps one page.**  Its `n`-th call, from the beginning of time, meets
`mishap n`, and draws identifiers by `draw n`. -/
structure PageHost where
  id : Json
  mishap : Nat → Option Mishap
  draw : Nat → (p : StoredPage) → (count : Nat) → NewIds p count

/-- The page as it is, and the calls that were made so far. -/
structure HostState where
  page : StoredPage
  calls : List PageCall

namespace PageHost

open Blocking

/-- What a call does to the page.  A call on another page does nothing to this one. -/
def effect (h : PageHost) (n : Nat) (p : StoredPage) : PageCall → StoredPage
  | .children _ => p
  | .append page batch => if page = h.id then p.append batch (h.draw n p batch.length) else p
  | .delete (.str id) => p.delete id
  | .delete _ => p
  | .update page (.obj fields) => if page = h.id then p.update fields else p
  | .update _ _ => p

/-- The answer to a call that takes a page to another: the children that are there, or those that
have come. -/
def answer (h : PageHost) (p p' : StoredPage) : PageCall → Json
  | .children page => .arr (if page = h.id then p.children.map (.obj ·.entries) else [])
  | .append _ _ =>
    .obj [("results", .arr ((p'.children.drop p.children.length).map (.obj ·.entries)))]
  | .delete _ => .obj []
  | .update _ _ => .obj []

/-- **Serve a call**, unless a mishap comes. -/
def serve (h : PageHost) (call : PageCall) : Action HostState Json := fun w =>
  let n := w.peer.calls.length
  let page := h.effect n w.peer.page call
  let calls := w.peer.calls ++ [call]
  match h.mishap n with
  | none => (.ok (h.answer w.peer.page page call), { w with peer := ⟨page, calls⟩ })
  | some m =>
    (.error m.fault, { w with peer := ⟨if m.tookEffect then page else w.peer.page, calls⟩ })

/-- What writes the page through the service.  How pages are created is left open. -/
def writer (h : PageHost) (c : Config) (create : Json → Json → Action HostState Json) :
    PageWriter HostState where
  config := c
  pages := ⟨create, fun page properties => h.serve (.update page properties)⟩
  blocks := ⟨fun page => h.serve (.children page), fun page batch => h.serve (.append page batch),
    fun block => h.serve (.delete block)⟩

section

variable {h : PageHost} {call : PageCall} {w : World HostState}

/-- A call without a mishap takes effect and is answered. -/
theorem run_serve_answered (hm : h.mishap w.peer.calls.length = none) :
    let page := h.effect w.peer.calls.length w.peer.page call
    (h.serve call).run w = (.ok (h.answer w.peer.page page call),
      { w with peer := ⟨page, w.peer.calls ++ [call]⟩ }) := by
  rw [Action.run, serve, hm]

/-- A call with a mishap is not answered, whether it took effect or not. -/
theorem run_serve_struck {m : Mishap} (hm : h.mishap w.peer.calls.length = some m) :
    let page := h.effect w.peer.calls.length w.peer.page call
    (h.serve call).run w = (.error m.fault,
      { w with peer := ⟨if m.tookEffect then page else w.peer.page, w.peer.calls ++ [call]⟩ }) := by
  rw [Action.run, serve, hm]

end

end PageHost

end PageSync
