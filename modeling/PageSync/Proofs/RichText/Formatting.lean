import Mathlib.Data.List.Forall2
import PageSync.Proofs.RichText.Annotation
import PageSync.Proofs.RichText.Leaves

/-!
# Proofs/RichText/Formatting — a span shows its leaf and what stands around it

A trail is a leaf with the wrappers and links around it, outermost first.  Each trail whose leaf
shows text gives one span, in document order, and `Span.Renders` reads the span off the trail alone:
the flags that something on the trail turns on, and the address of the outermost link
(`spans_of_trails`).  What a wrapper does to the formatting of all below it is what it adds to the
trails below it (`Renders.under`).
-/

namespace PageSync

/-! ## Trails -/

/-- A leaf with the wrappers and links around it, outermost first. -/
structure Trail where
  around : List Node
  leaf : Node

/-- A trail with one more node around it. -/
def Trail.under (n : Node) (t : Trail) : Trail :=
  ⟨n :: t.around, t.leaf⟩

namespace Node

mutual

/-- The trails of one node: a wrapper stands around those of its children, another node is a leaf
with nothing around it. -/
def trails : Node → List Trail
  | .mk kind raw attrs children =>
    if isWrapper (.mk kind raw attrs children) then
      (trailsOfChildren children).map (.under (.mk kind raw attrs children))
    else [⟨[], .mk kind raw attrs children⟩]

/-- The trails of the children of a node. -/
def trailsOfChildren : Option (List Node) → List Trail
  | none => []
  | some nodes => trailsOf nodes

/-- **The trails of a list of nodes**, in document order. -/
def trailsOf : List Node → List Trail
  | [] => []
  | n :: rest => trails n ++ trailsOf rest

end

theorem trailsOf_cons (n : Node) (rest : List Node) :
    trailsOf (n :: rest) =
      (if n.isWrapper then (trailsOf n.children).map (.under n) else [⟨[], n⟩]) ++
        trailsOf rest := by
  obtain ⟨kind, raw, attrs, _ | children⟩ := n <;> rfl

/-- A node is a wrapper that turns a flag on. -/
def TurnsOn (n : Node) (flag : String) : Prop :=
  ∃ k, n.kind? = some (.inline k) ∧ k.flag? = some flag

/-- The address of a link: the empty one when it has none; other nodes, and links whose address is
no text, have no address. -/
def address? (n : Node) : Option String :=
  if n.kind? = some (.inline .link) then
    match n.attr? "url" with
    | some url => url.string?
    | none => some ""
  else none

end Node

/-- Whether the leaf of a trail shows text. -/
def Trail.isShown (t : Trail) : Bool :=
  t.leaf.shown?.isSome

/-- A trail turns a flag on: one of the wrappers does, or the leaf is code. -/
def Trail.TurnsOn (t : Trail) (flag : String) : Prop :=
  (∃ w ∈ t.around, w.TurnsOn flag) ∨ (flag = "code" ∧ t.leaf.kind? = some (.inline .codespan))

/-- **A span is that of a trail**, in given formatting and below a given link: its content is what
the leaf shows, its formatting the given one with the flags of the trail turned on, and its link the
given one, or else that of the outermost link with an address. -/
structure Span.Renders (a : Annotations) (link : Option String) (t : Trail) (s : Span) : Prop where
  content : t.leaf.shown? = some s.content
  formatting : a.Lit t.TurnsOn s.annotations
  link : s.link = link.or (t.around.findSome? Node.address?)

namespace RichText

/-! ## One node -/

theorem mem_flags_of_flag? {k : InlineKind} {flag : String} (h : k.flag? = some flag) :
    flag ∈ Annotations.flags := by
  have all : ∀ entry ∈ InlineKind.wrapperFlags, entry.2 ∈ Annotations.flags := by decide
  exact all (k, flag) (mem_of_lookup h)

/-- A wrapper turns on its flag, and a link none. -/
theorem lit_styled_of_wrapper {n : Node} (h : n.isWrapper) (a : Annotations) :
    a.Lit n.TurnsOn (n.styled a) := by
  obtain ⟨kind, raw, attrs, children⟩ := n
  have of_flag : ∀ {k : InlineKind} {flag : String}, kind = some (.inline k) →
      k.flag? = some flag →
        a.Lit (Node.TurnsOn (.mk kind raw attrs children)) (a.withFlag flag) := by
    rintro k flag rfl hk
    refine (Annotations.lit_withFlag a (mem_flags_of_flag? hk)).congr fun name => ⟨?_, ?_⟩
    · rintro rfl
      exact ⟨k, rfl, hk⟩
    · rintro ⟨k', hk', hname⟩
      obtain rfl : k = k' := by cases hk'; rfl
      exact Option.some.inj (hname.symm.trans hk)
  match kind with
  | some (.inline .strong) => exact of_flag rfl rfl
  | some (.inline .emphasis) => exact of_flag rfl rfl
  | some (.inline .strikethrough) => exact of_flag rfl rfl
  | some (.inline .link) =>
    refine .refl a ?_
    rintro name ⟨k, hk, hname⟩
    cases hk
    cases hname

/-- A leaf that shows text is formatted as given, and code as code. -/
theorem lit_styled_of_leaf {n : Node} (h : n.shown?.isSome) (a : Annotations) :
    a.Lit (Trail.TurnsOn ⟨[], n⟩) (n.styled a) := by
  obtain ⟨kind, raw, attrs, children⟩ := n
  have of_leaf : kind ≠ some (.inline .codespan) →
      a.Lit (Trail.TurnsOn ⟨[], .mk kind raw attrs children⟩) a := by
    intro hk
    refine .refl a ?_
    rintro name (⟨w, hw, -⟩ | ⟨-, hcode⟩)
    · exact absurd hw List.not_mem_nil
    · exact hk hcode
  match kind with
  | some (.inline .text) => exact of_leaf (by decide)
  | some (.inline .linebreak) => exact of_leaf (by decide)
  | some (.inline .codespan) =>
    have code : "code" ∈ Annotations.flags := by decide
    refine (Annotations.lit_withFlag a code).congr fun name => ⟨?_, ?_⟩
    · exact fun hname => .inr ⟨hname, rfl⟩
    · rintro (⟨w, hw, -⟩ | ⟨hname, -⟩)
      · exact absurd hw List.not_mem_nil
      · exact hname

/-- Below a node stands the given link, or else that of the node. -/
theorem linked_eq (link : Option String) (n : Node) : n.linked link = link.or n.address? := by
  rw [Node.linked, Node.address?]
  split
  · cases link <;> rfl
  · exact Option.or_none.symm

end RichText

/-- **What stands around a trail is seen in its span**: a span of a trail in the formatting below a
wrapper and with the link below it is one of the trail under the wrapper. -/
theorem Span.Renders.under {a : Annotations} {link : Option String} {n : Node} {t : Trail}
    {s : Span} (hn : n.isWrapper) (h : s.Renders (n.styled a) (n.linked link) t) :
    s.Renders a link (t.under n) where
  content := h.content
  formatting := by
    refine ((RichText.lit_styled_of_wrapper hn a).trans h.formatting).congr fun name => ?_
    rw [Trail.TurnsOn, Trail.TurnsOn, Trail.under, List.exists_mem_cons_iff, or_assoc]
  link := by
    rw [h.link, RichText.linked_eq, Option.or_assoc, Trail.under, List.findSome?_cons]
    cases n.address? <;> rfl

namespace RichText

/-! ## Lists of nodes -/

/-- A leaf that shows text gives one span, another leaf none. -/
theorem renders_leaf (a : Annotations) (link : Option String) (n : Node) :
    List.Forall₂ (fun t s => Span.Renders a link t s)
      ([⟨[], n⟩].filter Trail.isShown) (leafSpans a link n) := by
  cases h : n.shown? with
  | none =>
    rw [leafSpans, h, List.filter_singleton, Trail.isShown, h]
    exact .nil
  | some content =>
    rw [leafSpans, h, List.filter_singleton, Trail.isShown, h]
    exact .cons ⟨h, lit_styled_of_leaf (by rw [h]; rfl) a, Option.or_none.symm⟩ .nil

/-- Each trail whose leaf shows text gives one span, which is that of the trail. -/
theorem renders_ofNodes (ns : List Node) :
    ∀ (a : Annotations) (link : Option String) (notes : Notes),
      List.Forall₂ (fun t s => Span.Renders a link t s)
        ((Node.trailsOf ns).filter Trail.isShown) (ofNodes a link ns notes).1 := by
  induction ns using Node.forest with
  | nil => exact fun _ _ _ => .nil
  | cons n rest below rest_ih =>
    intro a link notes
    rw [ofNodes_cons, ofNode_eq, Node.trailsOf_cons, List.filter_append]
    refine List.rel_append ?_ (rest_ih ..)
    split
    next hn =>
      rw [List.filter_map, List.forall₂_map_left_iff]
      exact (below _ _ notes).imp fun t s h => h.under hn
    next => exact renders_leaf a link n

/-- **Formatting is what stands around a leaf.**  Each text, code or line break leaf that wrappers
and links lead to gives exactly one span, in document order: its text, in the given formatting with
the flags that its wrappers or its being code turn on, under the given link or else the outermost
one around it.  Notes that are collected never change the spans. -/
theorem spans_of_trails (ns : List Node) (a : Annotations) (link : Option String) (notes : Notes) :
    List.Forall₂ (fun t s => Span.Renders a link t s)
        ((Node.trailsOf ns).filter Trail.isShown) (ofNodes a link ns notes).1 ∧
      (ofNodes a link ns notes).1 = (ofNodes a link ns none).1 :=
  ⟨renders_ofNodes ns a link notes, by rw [ofNodes_eq]⟩

/-- The outer link counts, also when it has no address. -/
example :
    let inner := Node.mk (some (.inline .link)) none (some [("url", .str "in")]) (some [.text "a"])
    spans [.mk (some (.inline .link)) none none (some [inner])] = [⟨"a", some "", .plain⟩] := by
  rfl

end RichText

end PageSync
