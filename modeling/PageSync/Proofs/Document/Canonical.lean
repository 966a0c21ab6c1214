import Mathlib.Data.List.Chain
import PageSync.Proofs.Document.Forest

/-!
# Proofs/Document/Canonical — every document is well formed

A node is canonical when it has the parts of its kind, when its children may stand below it, and
when no two of them are text that should be one text.  Whatever the tokens, the document that they
become is canonical at every depth (`canonical_normalize`): tokens become canonical nodes one by one
(`canonicalIn_canonical`), in the four places in which tokens are read, and merging adjacent text
keeps them so (`CanonicalIn.mergeText`).
-/

namespace PageSync

/-! ## Kinds -/

/-- The parts that the nodes of a kind have. -/
inductive Shape where
  /-- Raw text and no children. -/
  | leaf
  /-- Neither raw text nor children. -/
  | mark
  /-- Children. -/
  | branch
  deriving DecidableEq

namespace Kind

/-- The parts of the nodes of a kind. -/
def shape : Kind → Shape
  | .inline .text | .inline .codespan | .inline .htmlInline | .inline .footnoteRef
  | .block .htmlBlock | .block .definition | .block .blockCode => .leaf
  | .inline .linebreak | .block .thematicBreak => .mark
  | _ => .branch

/-- Whether a kind may stand below another, or at the root: rows stand below tables and nowhere
else, cells below rows, and only they stand there; any other place is for blocks and inline
nodes. -/
def fits (k : Kind) : Option Kind → Bool
  | some (.block .table) => k = .tableRow
  | some .tableRow => k = .tableCell
  | _ =>
    match k with
    | .block _ | .inline _ => true
    | _ => false

/-- What may stand at the root may stand below every kind but tables and rows. -/
theorem fits_some {place : Kind} (ht : place ≠ .block .table) (hr : place ≠ .tableRow) (k : Kind) :
    k.fits (some place) = k.fits none := by
  match place with
  | .block .table => exact absurd rfl ht
  | .tableRow => exact absurd rfl hr
  | .block .paragraph | .block .heading | .block .blockQuote | .block .blockCode | .block .list
  | .block .listItem | .block .thematicBreak | .block .htmlBlock | .block .definition
  | .block .footnoteDefinition | .inline _ | .tableCell | .other _ => rfl

end Kind

/-! ## Nodes -/

namespace Node

/-- A node has the parts of a shape. -/
def HasShape (n : Node) : Shape → Prop
  | .leaf => n.raw?.isSome ∧ n.children? = none
  | .mark => n.raw? = none ∧ n.children? = none
  | .branch => n.children?.isSome

/-- A text does not directly follow another text, unless the earlier one has attributes. -/
def Apart (n m : Node) : Prop :=
  n.isText → m.isText → n.attrs?.isSome

/-- Nodes that may stand side by side in a place: below a kind, or at the root. -/
structure Placed (place : Option Kind) (ns : List Node) : Prop where
  fits : ∀ n ∈ ns, ∃ k, n.kind? = some k ∧ k.fits place
  apart : ns.IsChain Apart

/-- **A node is canonical**: it has the parts of its kind, and its children are in their place. -/
structure IsCanonical (n : Node) : Prop where
  shape : n.HasShape n.kind.shape
  children : Placed n.kind? n.children

/-- Nodes that fit a place and are canonical at every depth. -/
def CanonicalIn (place : Option Kind) (ns : List Node) : Prop :=
  ∀ n ∈ ns, (∃ k, n.kind? = some k ∧ k.fits place) ∧ ∀ m, n.Holds m → m.IsCanonical

namespace CanonicalIn

variable {place : Option Kind} {ns ms : List Node}

theorem nil : CanonicalIn place [] :=
  fun _ hn => absurd hn List.not_mem_nil

theorem append (hn : CanonicalIn place ns) (hm : CanonicalIn place ms) :
    CanonicalIn place (ns ++ ms) :=
  fun n h => (List.mem_append.mp h).elim (hn n) (hm n)

/-- One node, with canonical children in their place. -/
theorem single {n : Node} {k : Kind} (hk : n.kind? = some k) (fits : k.fits place)
    (shape : n.HasShape k.shape) (below : CanonicalIn (some k) n.children)
    (apart : n.children.IsChain Apart) : CanonicalIn place [n] := by
  rintro _ (_ | ⟨_, ⟨⟩⟩)
  refine ⟨⟨k, hk, fits⟩, fun m hm => ?_⟩
  cases hm with
  | self =>
    refine ⟨by rwa [kind, hk], ?_, apart⟩
    rw [hk]
    exact fun c hc => (below c hc).1
  | child hc hm => exact (below _ hc).2 m hm

/-- One node without children. -/
theorem childless {n : Node} {k : Kind} (hk : n.kind? = some k) (fits : k.fits place)
    (shape : n.HasShape k.shape) (hc : n.children? = none) : CanonicalIn place [n] := by
  have none_below : n.children = [] := by rw [children, hc]; rfl
  refine single hk fits shape ?_ ?_ <;> rw [none_below]
  · exact nil
  · exact List.isChain_nil

theorem text (s : String) : CanonicalIn none [Node.text s] :=
  childless rfl rfl ⟨rfl, rfl⟩ rfl

/-- Nodes that may stand at the root may stand below a kind that is neither table nor row. -/
theorem below {k : Kind} (h : CanonicalIn none ns) (ht : k ≠ .block .table) (hr : k ≠ .tableRow) :
    CanonicalIn (some k) ns := by
  intro n hn
  obtain ⟨⟨k', hk', hfits⟩, hbelow⟩ := h n hn
  exact ⟨⟨k', hk', by rwa [Kind.fits_some ht hr]⟩, hbelow⟩

/-- Where no text may stand, no two texts stand side by side. -/
theorem apart (h : CanonicalIn place ns) (hp : (Kind.inline .text).fits place = false) :
    ns.IsChain Apart := by
  refine (List.pairwise_of_forall_mem_list fun n hn m _ htext => ?_).isChain
  obtain ⟨⟨k, hk, hfits⟩, -⟩ := h n hn
  have hkind : n.kind? = some (.inline .text) := of_decide_eq_true htext
  obtain rfl : k = .inline .text := Option.some.inj (hk.symm.trans hkind)
  exact absurd hfits (by rw [hp]; decide)

end CanonicalIn

/-! ## Merged text -/

/-- Merging keeps nodes, or makes plain text of them. -/
theorem mem_absorb {m : Node} : ∀ {n : Node} {ns : List Node}, m ∈ absorb n ns →
    m ∈ n :: ns ∨ ∃ s, m = text s
  | _, [], hm => .inl hm
  | n, n' :: rest, hm => by
      rw [absorb] at hm
      split at hm
      · rcases mem_absorb hm with hm | hm
        · rcases List.mem_cons.mp hm with rfl | hm
          · exact .inr ⟨_, rfl⟩
          · exact .inl (List.mem_cons_of_mem _ (List.mem_cons_of_mem _ hm))
        · exact .inr hm
      · rcases List.mem_cons.mp hm with rfl | hm
        · exact .inl List.mem_cons_self
        · exact (mem_absorb hm).imp_left (List.mem_cons_of_mem _)

/-- What a text has taken in is text, and another node takes in nothing. -/
theorem isText_of_head_absorb {m : Node} : ∀ {n : Node} {ns : List Node},
    m ∈ (absorb n ns).head? → m.isText = n.isText
  | n, [], hm => by
      obtain rfl : n = m := by simpa [absorb] using hm
      rfl
  | n, n' :: rest, hm => by
      rw [absorb] at hm
      split at hm
      next h =>
        rw [isPlainText, Bool.and_eq_true, Bool.and_eq_true] at h
        rw [isText_of_head_absorb hm, h.1.1]
        rfl
      next =>
        obtain rfl : n = m := by simpa using hm
        rfl

/-- **Merging leaves no two texts side by side**, unless the earlier one has attributes. -/
theorem isChain_absorb : ∀ (n : Node) (ns : List Node), (absorb n ns).IsChain Apart
  | n, [] => List.isChain_singleton n
  | n, n' :: rest => by
      rw [absorb]
      split
      next => exact isChain_absorb _ rest
      next h =>
        refine (isChain_absorb n' rest).cons fun m hm hn htext => ?_
        rw [isText_of_head_absorb hm] at htext
        rw [isPlainText, hn, htext] at h
        simpa [Option.isSome_iff_ne_none] using h

theorem isChain_mergeText : ∀ ns : List Node, (mergeText ns).IsChain Apart
  | [] => List.isChain_nil
  | n :: rest => isChain_absorb n rest

/-- **Merging adjacent text keeps nodes canonical.** -/
theorem CanonicalIn.mergeText {ns : List Node} (h : CanonicalIn none ns) :
    CanonicalIn none (mergeText ns) := by
  cases ns with
  | nil => exact h
  | cons n rest =>
    intro m hm
    rcases mem_absorb hm with hm | ⟨s, rfl⟩
    · exact h m hm
    · exact text s _ (List.mem_singleton_self _)

end Node

/-! ## Tokens -/

/-- Whether the nodes of a role are of kinds that may stand at the root and have its parts. -/
def Role.suits : Role → Bool
  | .container k =>
    k.fits none && (k = .block .thematicBreak || (k.shape = .branch && k ≠ .block .table))
  | .leaf k => k.fits none && k.shape = .leaf
  | _ => true

/-- A name has the role that the table gives it, or what has it is dropped. -/
theorem Role.mem_roles_or_dropped (name : String) :
    (name, Role.ofName name) ∈ roles ∨ Role.ofName name = .dropped := by
  rw [ofName]
  cases h : roles.lookup name with
  | none => exact .inr rfl
  | some role => exact .inl (mem_of_lookup h)

theorem Role.suits_ofName (name : String) : (Role.ofName name).suits = true := by
  have all : ∀ entry ∈ roles, entry.2.suits = true := by decide
  rcases mem_roles_or_dropped name with h | h
  · exact all _ h
  · rw [h]
    rfl

namespace Token

open Node (CanonicalIn)

theorem canonicalChildren_eq (children : Option (List Token)) :
    canonicalChildren children = normalize (children.getD []) := by
  cases children <;> rfl

theorem tableRows_eq (children : Option (List Token)) :
    tableRows children = partsRows (children.getD []) := by
  cases children <;> rfl

theorem bodyRows_eq (children : Option (List Token)) :
    bodyRows children = rowNodes (children.getD []) := by
  cases children <;> rfl

theorem rowCells_eq (children : Option (List Token)) :
    rowCells children = cellNodes (children.getD []) := by
  cases children <;> rfl

/-- **What tokens give is canonical**, wherever they are read: as nodes of their own, as the parts
of a table, as the rows of its body, and as the cells of a row. -/
structure Yields (ts : List Token) : Prop where
  pieces : CanonicalIn none (canonicalPieces ts)
  parts : CanonicalIn (some (.block .table)) (partsRows ts)
  rows : CanonicalIn (some (.block .table)) (rowNodes ts)
  cells : CanonicalIn (some .tableRow) (cellNodes ts)

/-- A row over cells is canonical. -/
theorem canonicalIn_row {ts : List Token} (h : Yields ts) :
    CanonicalIn (some (.block .table)) [.mk (some .tableRow) none none (some (cellNodes ts))] :=
  .single rfl rfl rfl h.cells (h.cells.apart rfl)

/-- A container over tokens is canonical. -/
theorem canonicalIn_container {ts : List Token} (h : Yields ts) {k : Kind}
    (hk : (Role.container k).suits) (attrs : Option Fields) :
    CanonicalIn none [.mk (some k) none attrs
      (if k = .block .thematicBreak then none else some (normalize ts))] := by
  obtain ⟨fits, hk⟩ := Bool.and_eq_true_iff.mp hk
  by_cases hb : k = .block .thematicBreak
  · subst hb
    exact .childless rfl fits ⟨rfl, rfl⟩ rfl
  · simp only [hb, decide_false, Bool.false_or, Bool.and_eq_true, decide_eq_true_eq] at hk
    rw [if_neg hb]
    refine .single rfl fits ?_ ?_ (Node.isChain_mergeText _)
    · rw [hk.1]
      rfl
    · exact h.pieces.mergeText.below hk.2 (by rintro rfl; cases fits)

/-- The nodes of a token are canonical when what its children give is. -/
theorem canonicalIn_canonical (t : Token) (h : Yields (t.children?.getD [])) :
    CanonicalIn none t.canonical := by
  obtain ⟨type, raw, attrs, children⟩ := t
  have suits := Role.suits_ofName (type.getD "")
  rw [canonical]
  split
  case h_1 k hrole =>
    rw [canonicalChildren_eq]
    exact canonicalIn_container h (hrole ▸ suits) _
  case h_2 k hrole =>
    obtain ⟨fits, hk⟩ := Bool.and_eq_true_iff.mp (hrole ▸ suits : (Role.leaf k).suits)
    exact .childless rfl fits (by rw [of_decide_eq_true hk]; exact ⟨rfl, rfl⟩) rfl
  case h_3 => exact .childless rfl rfl ⟨rfl, rfl⟩ rfl
  case h_4 =>
    rw [tableRows_eq]
    exact .single rfl rfl rfl h.parts (h.parts.apart rfl)
  case h_5 => exact .text "\n"
  case h_6 => exact .childless rfl rfl ⟨rfl, rfl⟩ rfl
  case h_7 => exact .nil

/-- The rows of a part of a table are canonical when what its children give is. -/
theorem canonicalIn_partRows (t : Token) (h : Yields (t.children?.getD [])) :
    CanonicalIn (some (.block .table)) t.partRows := by
  obtain ⟨type, raw, attrs, children⟩ := t
  rw [partRows]
  split
  · rw [rowCells_eq]
    exact canonicalIn_row h
  · rw [bodyRows_eq]
    exact h.rows
  · exact .nil

/-- The row of a token is canonical when what its children give is. -/
theorem canonicalIn_rowNode (t : Token) (h : Yields (t.children?.getD [])) :
    CanonicalIn (some (.block .table)) t.rowNode := by
  obtain ⟨type, raw, attrs, children⟩ := t
  rw [rowNode]
  split
  · rw [rowCells_eq]
    exact canonicalIn_row h
  · exact .nil

/-- The cell of a token is canonical when what its children give is. -/
theorem canonicalIn_cellNode (t : Token) (h : Yields (t.children?.getD [])) :
    CanonicalIn (some .tableRow) t.cellNode := by
  obtain ⟨type, raw, attrs, children⟩ := t
  rw [cellNode]
  split
  · rw [canonicalChildren_eq]
    exact .single rfl rfl rfl (h.pieces.mergeText.below (by decide) (by decide))
      (Node.isChain_mergeText _)
  · exact .nil

theorem yields (ts : List Token) : Yields ts := by
  induction ts using forest with
  | nil => exact ⟨.nil, .nil, .nil, .nil⟩
  | cons t rest below rest_ih =>
    exact ⟨(canonicalIn_canonical t below).append rest_ih.pieces,
      (canonicalIn_partRows t below).append rest_ih.parts,
      (canonicalIn_rowNode t below).append rest_ih.rows,
      (canonicalIn_cellNode t below).append rest_ih.cells⟩

/-- **Every document is canonical.**  Whatever the tokens, the roots of their document may stand
side by side at the root, and every node at every depth has the parts of its kind and children that
may stand side by side below it. -/
theorem canonical_normalize (tokens : List Token) :
    Node.Placed none (normalize tokens) ∧
      ∀ n ∈ normalize tokens, ∀ m, n.Holds m → m.IsCanonical := by
  have canonical : CanonicalIn none (normalize tokens) := (yields tokens).pieces.mergeText
  exact ⟨⟨fun n hn => (canonical n hn).1, Node.isChain_mergeText _⟩,
    fun n hn => (canonical n hn).2⟩

/-- Text is merged with what was no neighbour of it among the tokens, but not into attributes. -/
example :
    normalize [text "a", bare "blank_line", bare "softbreak", branch "footnotes" [], text "b",
      .mk (some "text") (some "c") (some [("x", .null)]) none, bare "linebreak",
      .mk (some "text") (some "d") (some [("x", .null)]) none, text "e"] =
    [.text "a\nbc", .mk (some (.inline .linebreak)) none none none,
      .mk (some (.inline .text)) (some "d") (some [("x", .null)]) none, .text "e"] := by
  rfl

end Token

end PageSync
