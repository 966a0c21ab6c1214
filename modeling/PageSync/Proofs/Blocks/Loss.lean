import Mathlib.Data.List.Infix
import PageSync.Proofs.Blocks.Walk

/-!
# Proofs/Blocks/Loss — what a conversion without warnings keeps

A conversion that warns of nothing shows all the text that the builder reaches: `Node.Reaches`
follows it from node to node, and whatever it leaves out on this way it warns of (`Node.keeps`).
Three places are not on the way and give no warning either (`Node.PassesOver`): the items after the
first of a list that stands directly in a quote, what a table holds beyond the text of its cells,
and a node that stands in a list in place of an item.  `shown_or_passed_over` says that there are no
others, `lost_in_silence` that text can be lost at each of them.
-/

namespace PageSync

/-! ## Text in spans and blocks -/

/-- The text of a node stands in one of the spans. -/
def Span.Contain (spans : List Span) (m : Node) : Prop :=
  ∃ s ∈ spans, m.raw.toList <:+: s.content.toList

/-- A block shows the text of a node. -/
def Block.Shows (b : Block) (m : Node) : Prop :=
  Span.Contain (b.spans?.getD []) m

instance (b : Block) (m : Node) : Decidable (b.Shows m) :=
  inferInstanceAs (Decidable (∃ s ∈ _, _))

namespace Span.Contain

variable {spans : List Span} {m : Node}

/-- A text block shows what its spans contain. -/
theorem ofSpans (h : Contain spans m) (style : TextStyle) :
    (Block.ofSpans style spans).Shows m := by
  obtain ⟨s, hs, hm⟩ := h
  cases spans with
  | nil => exact absurd hs List.not_mem_nil
  | cons s' rest => exact ⟨s, hs, hm⟩

/-- Joined parts contain what one of them does. -/
theorem joinParts : ∀ {parts : List (List Span)}, spans ∈ parts → Contain spans m →
    Contain (Block.joinParts parts) m
  | [part], hp, h => by
      obtain rfl := List.mem_singleton.mp hp
      exact h
  | part :: next :: rest, hp, h => by
      rcases List.mem_cons.mp hp with rfl | hp
      · obtain ⟨s, hs, hm⟩ := h
        exact ⟨s, List.mem_append_left _ hs, hm⟩
      · obtain ⟨s, hs, hm⟩ := joinParts hp h
        exact ⟨s, List.mem_append_right _ (List.mem_cons_of_mem _ hs), hm⟩

end Span.Contain

/-- A text stands in the text that it is joined into. -/
theorem infix_intercalate (sep : String) {x : String} : ∀ {xs : List String}, x ∈ xs →
    x.toList <:+: (sep.intercalate xs).toList
  | [y], hx => by
      obtain rfl := List.mem_singleton.mp hx
      simp
  | y :: y' :: ys, hx => by
      rw [String.toList_intercalate, List.map_cons, List.map_cons, List.intercalate_cons_cons,
        List.append_assoc]
      rcases List.mem_cons.mp hx with rfl | hx
      · exact (List.prefix_append _ _).isInfix
      · have := infix_intercalate sep hx
        rw [String.toList_intercalate, List.map_cons] at this
        exact (this.trans (List.suffix_append _ _).isInfix).trans (List.suffix_append _ _).isInfix

/-! ## Nodes -/

namespace Node

/-- Whether a node has a kind of the grammar and no children where that kind is a leaf. -/
def isGrammatical (n : Node) : Bool :=
  match n.kind? with
  | some (.inline .text) | some (.inline .codespan) | some (.inline .linebreak)
  | some (.block .blockCode) | some (.block .thematicBreak) => n.children.isEmpty
  | some (.other _) | none => false
  | _ => true

/-- Whether the raw text of a node is text of the document. -/
def isWritten (n : Node) : Bool :=
  match n.kind? with
  | some (.inline .text) | some (.inline .codespan) | some (.block .blockCode) => true
  | _ => false

/-- **The builder reaches a node from another**: it reads the children of a node, in place of an
item its children, and of a table the leaves of the cells that show text.  Of a list that stands
directly in a quote it reads the first item only. -/
inductive Reaches : (quoted : Bool) → Node → Node → Prop
  | self (quoted : Bool) (n : Node) : Reaches quoted n n
  | child {quoted : Bool} {n c m : Node} (hlist : n.kind? ≠ some (.block .list))
      (htable : n.kind? ≠ some (.block .table)) (hc : c ∈ n.children)
      (h : Reaches (n.kind? = some (.block .blockQuote)) c m) : Reaches quoted n m
  | item {quoted : Bool} {n i c m : Node} (hlist : n.kind? = some (.block .list))
      (hi : i ∈ n.children) (hfirst : quoted = true → n.children.head? = some i)
      (hc : c ∈ i.children) (h : Reaches false c m) : Reaches quoted n m
  | cell {quoted : Bool} {n row cell m : Node} (htable : n.kind? = some (.block .table))
      (hrow : row ∈ n.children) (hcell : cell ∈ row.children) (h : m ∈ leavesOf cell.children)
      (hs : m.shown?.isSome = true) : Reaches quoted n m

/-- **The builder passes over a node in silence.** -/
inductive PassesOver (top : Node) : Node → Prop
  | lateItem {quote list item m : Node} (hquote : top.Holds quote)
      (hq : quote.kind? = some (.block .blockQuote)) (hlist : list ∈ quote.children)
      (hl : list.kind? = some (.block .list)) (hitem : item ∈ list.children.tail)
      (h : item.Holds m) : PassesOver top m
  | besideCells {table m : Node} (htable : top.Holds table)
      (ht : table.kind? = some (.block .table)) (h : table.Holds m)
      (hcells : ∀ row ∈ table.children, ∀ cell ∈ row.children, m ∈ leavesOf cell.children →
        m.shown? = none) : PassesOver top m
  | asItem {list m : Node} (hlist : top.Holds list) (hl : list.kind? = some (.block .list))
      (h : m ∈ list.children) : PassesOver top m

theorem Holds.trans {a b c : Node} (hab : a.Holds b) (hbc : b.Holds c) : a.Holds c := by
  induction hab with
  | self => exact hbc
  | child hc _ ih => exact .child hc (ih hbc)

/-- What is reached from a node stands at it or below it. -/
theorem Reaches.holds {quoted : Bool} {n m : Node} (h : Reaches quoted n m) : n.Holds m := by
  induction h with
  | self _ n => exact .self n
  | child _ _ hc _ ih => exact .child hc ih
  | item _ hi _ hc _ ih => exact .child hi (.child hc ih)
  | cell _ hrow hcell h _ =>
    obtain ⟨c, hc, hm⟩ := exists_holds_of_mem_leavesOf _ _ h
    exact .child hrow (.child hcell (.child hc hm))

/-- A node stands directly in some quote of a document. -/
def InQuote (top n : Node) : Prop :=
  ∃ quote, top.Holds quote ∧ quote.kind? = some (.block .blockQuote) ∧ n ∈ quote.children

/-- **Nothing else is left out**: a node that stands at or below another is reached from it, or it
is passed over. -/
theorem reaches_or_passesOver {top n m : Node} (h : n.Holds m) (htop : top.Holds n) :
    ∀ quoted, (quoted = true → InQuote top n) → Reaches quoted n m ∨ top.PassesOver m := by
  -- A list reaches the children of its items and not the items, so the induction also says how a
  -- node is reached from the children of the one above it.
  have both : (∀ quoted, (quoted = true → InQuote top n) → Reaches quoted n m ∨ top.PassesOver m) ∧
      (m = n ∨ ∃ c ∈ n.children, Reaches false c m ∨ top.PassesOver m) := by
    induction h with
    | self n => exact ⟨fun quoted _ => .inl (.self quoted n), .inl rfl⟩
    | @child n c m hc h ih =>
      obtain ⟨reach, fromChildren⟩ := ih (htop.trans (.child hc (.self c)))
      refine ⟨fun quoted hquoted => ?_, .inr ⟨c, hc, reach false (by simp)⟩⟩
      by_cases hlist : n.kind? = some (.block .list)
      · by_cases hfirst : quoted = true → n.children.head? = some c
        · rcases fromChildren with rfl | ⟨d, hd, hm | hm⟩
          · exact .inr (.asItem htop hlist hc)
          · exact .inl (.item hlist hc hfirst hd hm)
          · exact .inr hm
        · obtain ⟨hq, hne⟩ := Classical.not_imp.mp hfirst
          obtain ⟨quote, hquote, hk, hmem⟩ := hquoted hq
          refine .inr (.lateItem hquote hk hmem hlist ?_ h)
          cases hcs : n.children with
          | nil => exact absurd (hcs ▸ hc) List.not_mem_nil
          | cons first rest =>
            rw [hcs] at hc hne
            exact (List.mem_cons.mp hc).resolve_left fun he => hne (by rw [he]; rfl)
      by_cases htable : n.kind? = some (.block .table)
      · by_cases hcell : ∃ row ∈ n.children, ∃ cell ∈ row.children,
            m ∈ leavesOf cell.children ∧ m.shown?.isSome = true
        · obtain ⟨row, hrow, cell, hcell, hm, hs⟩ := hcell
          exact .inl (.cell htable hrow hcell hm hs)
        · refine .inr (.besideCells htop htable (.child hc h) ?_)
          intro row hrow cell hcell' hm
          exact Option.not_isSome_iff_eq_none.mp fun hs => hcell ⟨row, hrow, cell, hcell', hm, hs⟩
      · refine (reach _ fun hq => ?_).imp_left (.child hlist htable hc)
        exact ⟨n, htop, of_decide_eq_true hq, hc⟩
  exact both.1

/-! ## What the builder reaches it shows -/

variable {n m : Node}

/-- All that stands at or below a node is grammatical. -/
def GrammaticalBelow (n : Node) : Prop :=
  ∀ k, n.Holds k → k.isGrammatical = true

theorem GrammaticalBelow.child {c : Node} (h : n.GrammaticalBelow) (hc : c ∈ n.children) :
    c.GrammaticalBelow :=
  fun k hk => h k (.child hc hk)

/-- A leaf that shows text has no children. -/
theorem children_of_shown (hg : n.isGrammatical = true) (hs : n.shown?.isSome = true) :
    n.children = [] := by
  rw [isGrammatical] at hg
  rw [shown?] at hs
  split at hs <;> rename_i hk <;> first | simp [hk] at hg | simp at hs
  all_goals exact hg

/-- The text of the document at a leaf is what the leaf shows. -/
theorem shown_of_isWritten (hw : m.isWritten = true) (hs : m.shown?.isSome = true) :
    m.shown? = some m.raw := by
  rw [isWritten] at hw
  rw [shown?] at hs ⊢
  split at hw <;> rename_i hk <;> simp_all

theorem isWrapper_of_isWritten (hw : m.isWritten = true) : m.isWrapper = false := by
  rw [isWritten] at hw
  rw [isWrapper]
  split at hw <;> simp_all

end Node

/-- Nodes whose leaves lose nothing show all the text below them. -/
theorem RichText.contain_spans {ns : List Node} (hg : ∀ n ∈ ns, n.GrammaticalBelow)
    (hl : losses ns = []) {c m : Node} (hc : c ∈ ns) (h : c.Holds m) (hw : m.isWritten = true) :
    Span.Contain (spans ns) m := by
  have shows : ∀ leaf ∈ Node.leavesOf ns, leaf.shown?.isSome = true := by
    intro leaf hleaf
    have := List.flatMap_eq_nil_iff.mp hl leaf hleaf
    by_contra hne
    rw [leafLosses, if_neg hne] at this
    exact absurd this (List.cons_ne_nil _ _)
  have hm : m ∈ Node.leavesOf ns := by
    refine Node.mem_leavesOf_of_holds ns ?_ c hc m h (Node.isWrapper_of_isWritten hw)
    intro leaf hleaf
    obtain ⟨n, hn, hh⟩ := Node.exists_holds_of_mem_leavesOf ns leaf hleaf
    exact Node.children_of_shown (hg n hn leaf hh) (shows leaf hleaf)
  have hraw : m.raw ∈ shown ns :=
    List.mem_filterMap.mpr ⟨m, hm, Node.shown_of_isWritten hw (shows m hm)⟩
  rw [← contents_ofNodes ns .plain none none] at hraw
  obtain ⟨s, hs, he⟩ := List.mem_map.mp hraw
  exact ⟨s, hs, he ▸ List.infix_rfl⟩

namespace Node

variable {n m c : Node}

/-- An item that gives nothing up shows all the text below it. -/
theorem shows_itemBlock (ordered : Bool) (hg : n.GrammaticalBelow) (hl : n.itemLosses = [])
    (hc : c ∈ n.children) (h : c.Holds m) (hw : m.isWritten = true) :
    (n.itemBlock ordered).Shows m := by
  obtain ⟨hlead, htail⟩ := List.append_eq_nil_iff.mp hl
  refine Span.Contain.ofSpans ?_ _
  have htail : n.tail = [] := by
    by_contra hne
    simp [hne] at htail
  rw [lead] at hlead ⊢
  rw [tail] at htail
  cases hcs : n.children with
  | nil => exact absurd (hcs ▸ hc) List.not_mem_nil
  | cons first rest =>
    simp only [hcs] at hlead htail ⊢
    by_cases hp : first.kind? = some (.block .paragraph)
    · simp only [if_pos hp] at hlead htail ⊢
      have hfirst : first ∈ n.children := hcs ▸ List.mem_cons_self
      obtain rfl : c = first := by simpa [hcs, htail] using hc
      cases h with
      | self => simp [isWritten, hp] at hw
      | child hd h =>
        exact RichText.contain_spans (fun d hd => (hg.child hfirst).child hd) hlead hd h hw
    · rw [if_neg hp] at htail
      exact absurd htail (List.cons_ne_nil _ _)

/-- The text of a leaf of a cell stands in the text of the table. -/
theorem infix_tableText {row cell : Node} (hrow : row ∈ n.children) (hcell : cell ∈ row.children)
    (h : m ∈ leavesOf cell.children) (hs : m.shown? = some m.raw) :
    m.raw.toList <:+: (Block.tableText n.children).toList := by
  have hleaf : m.raw.toList <:+: (RichText.plainTextOfNodes cell.children).toList := by
    rw [RichText.plainTextOfNodes_eq, String.toList_join, List.flatMap_def]
    exact List.infix_of_mem_flatten (List.mem_map_of_mem (List.mem_filterMap.mpr ⟨m, h, hs⟩))
  have hcell := infix_intercalate " | "
    (List.mem_map_of_mem (f := fun c : Node => RichText.plainTextOfNodes c.children) hcell)
  have hrow := infix_intercalate "\n" (List.mem_map_of_mem (f := fun r : Node =>
    " | ".intercalate (r.children.map fun c => RichText.plainTextOfNodes c.children)) hrow)
  exact (hleaf.trans hcell).trans hrow

/-- A node without losses is of a kind that has blocks of its own. -/
theorem kind_of_flatLosses (h : n.flatLosses = []) :
    n.kind? ∈ [BlockKind.paragraph, .heading, .blockCode, .list, .listItem, .thematicBreak,
      .table].map fun k => some (Kind.block k) := by
  rw [flatLosses] at h
  split at h <;> simp_all

/-- Whether a node shows the text of another, on the page and in the quote that it stands in. -/
structure Keeps (quoted : Bool) (n m : Node) : Prop where
  block : ∃ b ∈ n.blocks, b.Shows m
  part : quoted = true → ∃ spans, n.part? = some spans ∧ Span.Contain spans m

namespace Keeps

variable {quoted : Bool} {b : Block}

/-- The first block of a node that is no paragraph is what it gives to a quote. -/
theorem of_head (hp : n.kind? ≠ some (.block .paragraph)) (hb : n.blocks.head? = some b)
    (h : b.Shows m) : Keeps quoted n m where
  block := ⟨b, List.mem_of_mem_head? hb, h⟩
  part _ := by
    rw [part?, if_neg hp, hb]
    cases hs : b.spans? with
    | none => simp [Block.Shows, Span.Contain, hs] at h
    | some spans => exact ⟨spans, hs, by simpa [Block.Shows, hs] using h⟩

theorem of_flatBlocks (hquote : n.kind? ≠ some (.block .blockQuote))
    (hp : n.kind? ≠ some (.block .paragraph)) (hb : n.flatBlocks.head? = some b) (h : b.Shows m) :
    Keeps quoted n m :=
  of_head hp (blocks_of_ne hquote ▸ hb) h

/-- A node that is text of the document itself, and not an inline node out of place, is code. -/
theorem of_code (hw : n.isWritten = true) (hl : n.losses = []) : Keeps quoted n n := by
  have hquote : n.kind? ≠ some (.block .blockQuote) := fun hk => by simp [isWritten, hk] at hw
  have hk : n.kind? = some (.block .blockCode) := by
    have := kind_of_flatLosses (losses_of_ne hquote ▸ hl)
    rw [isWritten] at hw
    split at hw <;> simp_all
  have hb : n.flatBlocks = [.code (Block.languageOf (n.attr? "info")) [.plain n.raw]] := by
    rw [flatBlocks, hk]
  exact of_flatBlocks hquote (by simp [hk]) (by rw [hb]; rfl)
    ⟨_, List.mem_singleton_self _, List.infix_rfl⟩

/-- A paragraph, a heading or an item outside a list shows the text below its children. -/
theorem of_child (hg : n.GrammaticalBelow) (hquote : n.kind? ≠ some (.block .blockQuote))
    (hlist : n.kind? ≠ some (.block .list)) (htable : n.kind? ≠ some (.block .table))
    (hl : n.losses = []) (hc : c ∈ n.children) (h : c.Holds m) (hw : m.isWritten = true) :
    Keeps quoted n m := by
  have hl : n.flatLosses = [] := losses_of_ne hquote ▸ hl
  have hchildren : n.children ≠ [] := List.ne_nil_of_mem hc
  have hself := hg n (.self n)
  have hk := kind_of_flatLosses hl
  simp only [List.map_cons, List.map_nil, List.mem_cons, List.not_mem_nil, or_false] at hk
  rcases hk with hk | hk | hk | hk | hk | hk | hk
  · rw [flatLosses, hk] at hl
    have shown := RichText.contain_spans (fun c hc => hg.child hc) hl hc h hw
    refine ⟨⟨_, ?_, shown.ofSpans .paragraph⟩, fun _ => ⟨_, if_pos hk, shown⟩⟩
    rw [blocks_of_ne hquote, flatBlocks, hk]
    exact List.mem_singleton_self _
  · rw [flatLosses, hk] at hl
    have shown := RichText.contain_spans (fun c hc => hg.child hc) hl hc h hw
    exact of_flatBlocks hquote (by simp [hk]) (by rw [flatBlocks, hk]; rfl) (shown.ofSpans _)
  · simp [isGrammatical, hk, hchildren] at hself
  · exact absurd hk hlist
  · rw [flatLosses, hk] at hl
    exact of_flatBlocks hquote (by simp [hk]) (by rw [flatBlocks, hk]; rfl)
      (shows_itemBlock false hg hl hc h hw)
  · simp [isGrammatical, hk, hchildren] at hself
  · exact absurd hk htable

/-- A quote shows the text in the parts that its children give it. -/
theorem of_part (hquote : n.kind? = some (.block .blockQuote)) (hc : c ∈ n.children)
    (h : Keeps true c m) : Keeps quoted n m := by
  obtain ⟨spans, hpart, hspans⟩ := h.part rfl
  have hmem : spans ∈ partsOf n.children := by
    rw [partsOf_eq]
    exact List.mem_filterMap.mpr ⟨c, hc, hpart⟩
  refine of_head (by simp [hquote]) ?_ ((hspans.joinParts hmem).ofSpans .quote)
  rw [blocks_of_quote hquote]
  rfl

/-- A list shows the text below the children of its items, and to a quote that of the first item. -/
theorem of_item {i : Node} (hg : n.GrammaticalBelow) (hlist : n.kind? = some (.block .list))
    (hl : n.losses = []) (hi : i ∈ n.children)
    (hfirst : quoted = true → n.children.head? = some i) (hc : c ∈ i.children) (h : c.Holds m)
    (hw : m.isWritten = true) : Keeps quoted n m := by
  have hquote : n.kind? ≠ some (.block .blockQuote) := by simp [hlist]
  have hblocks : n.flatBlocks = n.children.map (itemBlock (Block.isOrdered n.attrs?)) := by
    rw [flatBlocks, hlist]
  have hli : i.itemLosses = [] := by
    rw [losses_of_ne hquote, flatLosses, hlist] at hl
    exact List.flatMap_eq_nil_iff.mp hl i hi
  have shown := shows_itemBlock (Block.isOrdered n.attrs?) (hg.child hi) hli hc h hw
  cases quoted with
  | true =>
    refine of_flatBlocks hquote (by simp [hlist]) ?_ shown
    rw [hblocks, List.head?_map, hfirst rfl]
    rfl
  | false =>
    refine ⟨⟨_, ?_, shown⟩, by simp⟩
    rw [blocks_of_ne hquote, hblocks]
    exact List.mem_map_of_mem hi

/-- A table shows the text at the leaves of its cells. -/
theorem of_cell {row cell : Node} (htable : n.kind? = some (.block .table))
    (hrow : row ∈ n.children) (hcell : cell ∈ row.children) (h : m ∈ leavesOf cell.children)
    (hs : m.shown? = some m.raw) : Keeps quoted n m := by
  have shown := infix_tableText hrow hcell h hs
  have hb : n.flatBlocks = [.text .paragraph [.plain (if Block.tableText n.children = "" then " "
      else Block.tableText n.children)]] := by
    rw [flatBlocks, htable]
  refine of_flatBlocks (by simp [htable]) (by simp [htable]) (by rw [hb]; rfl)
    ⟨_, List.mem_singleton_self _, ?_⟩
  split
  next hempty =>
    rw [hempty] at shown
    rw [List.eq_nil_of_infix_nil shown]
    exact List.nil_infix
  next => exact shown

end Keeps

/-- **What the builder reaches it shows**, if it warns of nothing. -/
theorem Reaches.keeps {quoted : Bool} (h : Reaches quoted n m) (hw : m.isWritten = true)
    (hg : n.GrammaticalBelow) (hl : n.losses = []) : Keeps quoted n m := by
  induction h with
  | self quoted n => exact .of_code hw hl
  | @child quoted n c m hlist htable hc h ih =>
    by_cases hquote : n.kind? = some (.block .blockQuote)
    · have hlc : c.losses = [] := List.flatMap_eq_nil_iff.mp (losses_of_quote hquote ▸ hl) c hc
      have kept := ih hw (hg.child hc) hlc
      rw [decide_eq_true hquote] at kept
      exact .of_part hquote hc kept
    · exact .of_child hg hquote hlist htable hl hc h.holds hw
  | item hlist hi hfirst hc h => exact .of_item hg hlist hl hi hfirst hc h.holds hw
  | cell htable hrow hcell h hs =>
    exact .of_cell htable hrow hcell h (shown_of_isWritten hw hs)

/-- A root without losses has the blocks of the node. -/
theorem rootBlocks_of_rootLosses (h : n.rootLosses = []) :
    n.rootBlocks = n.blocks ∧ n.losses = [] := by
  rw [rootLosses] at h
  rw [rootBlocks]
  split at h
  · exact absurd h (List.cons_ne_nil _ _)
  · exact ⟨rfl, h⟩

end Node

/-! ## Documents -/

namespace Block

/-- **No loss without a warning, but for what is passed over.**  In a document of grammatical nodes
whose conversion warns of nothing, every piece of text that the builder reaches stands in a span;
and every node of the document is reached or passed over. -/
theorem shown_or_passed_over (roots : List Node)
    (hg : ∀ n ∈ roots, ∀ k, n.Holds k → k.isGrammatical = true)
    (hw : (ofNodes roots).warnings = []) :
    ∀ root ∈ roots,
      (∀ m, root.Reaches false m → m.isWritten = true →
        ∃ b ∈ (ofNodes roots).blocks, b.Shows m) ∧
      ∀ m, root.Holds m → root.Reaches false m ∨ root.PassesOver m := by
  intro root hroot
  refine ⟨fun m h hm => ?_, fun m h => ?_⟩
  · rw [ofNodes_eq] at hw ⊢
    obtain ⟨hblocks, hl⟩ :=
      Node.rootBlocks_of_rootLosses (List.flatMap_eq_nil_iff.mp hw root hroot)
    obtain ⟨b, hb, shown⟩ := (h.keeps hm (hg root hroot) hl).block
    exact ⟨b, List.mem_flatMap.mpr ⟨root, hroot, hblocks ▸ hb⟩, shown⟩
  · exact Node.reaches_or_passesOver h (.self root) false (by simp)

/-- A quote with a paragraph, a list of one item and a quote, and a table of one cell, are reached
throughout. -/
theorem shown_of_quotes :
    let doc : List Node :=
      [.mk (some (.block .blockQuote)) none none (some
          [.mk (some (.block .paragraph)) none none (some [.text "a"]),
            .mk (some (.block .list)) none none (some
              [.mk (some (.block .listItem)) none none (some
                [.mk (some (.block .paragraph)) none none (some [.text "b"])])]),
            .mk (some (.block .blockQuote)) none none (some
              [.mk (some (.block .blockCode)) (some "c") none none])]),
        .mk (some (.block .table)) none none (some
          [.mk (some .tableRow) none none (some
            [.mk (some .tableCell) none none (some
              [.mk (some (.inline .codespan)) (some "d") none none])])])]
    (∀ n ∈ doc, ∀ k, n.Holds k → k.isGrammatical = true) ∧ (ofNodes doc).warnings = [] ∧
      ∀ root ∈ doc,
        (∀ m, root.Reaches false m → m.isWritten = true →
          ∃ b ∈ (ofNodes doc).blocks, b.Shows m) ∧
        ∀ m, root.Holds m → root.Reaches false m ∨ root.PassesOver m := by
  intro doc
  have grammatical : ∀ n ∈ doc, ∀ k, n.Holds k → k.isGrammatical = true := by decide +kernel
  have silent : (ofNodes doc).warnings = [] := by decide +kernel
  exact ⟨grammatical, silent, shown_or_passed_over doc grammatical silent⟩

/-- **Text is lost in silence** where a list in a quote has a second item, where an image stands in
a cell, and where code stands in a list in place of an item. -/
theorem lost_in_silence :
    let item (s : String) : Node := .mk (some (.block .listItem)) none none (some
      [.mk (some (.block .paragraph)) none none (some [.text s])])
    let code : Node := .mk (some (.block .blockCode)) (some "two") none none
    ∀ case ∈ [
        (Node.text "two",
          Node.mk (some (.block .blockQuote)) none none (some
            [.mk (some (.block .list)) none none (some [item "one", item "two"])])),
        (Node.text "two",
          Node.mk (some (.block .table)) none none (some
            [.mk (some .tableRow) none none (some
              [.mk (some .tableCell) none none (some
                [.mk (some (.inline .image)) none none (some [.text "two"])])])])),
        (code, Node.mk (some (.block .list)) none none (some [code]))],
      (∀ k, case.2.Holds k → k.isGrammatical = true) ∧
        (ofNodes [case.2]).warnings = [] ∧ case.2.Holds case.1 ∧ case.1.isWritten = true ∧
        ¬ ∃ b ∈ (ofNodes [case.2]).blocks, b.Shows case.1 := by
  intro item code
  have only : ∀ {n : Node}, n ∈ [n] := List.mem_singleton_self _
  have second : ∀ {n m : Node}, m ∈ [n, m] := List.mem_cons_of_mem _ only
  simp only [List.forall_mem_cons, List.not_mem_nil, false_imp_iff, implies_true, and_true]
  refine ⟨?_, ?_, ?_⟩
  · refine ⟨by decide +kernel, by decide +kernel, ?_, rfl, by decide +kernel⟩
    exact .child only (.child second (.child only (.child only (.self _))))
  · refine ⟨by decide +kernel, by decide +kernel, ?_, rfl, by decide +kernel⟩
    exact .child only (.child only (.child only (.child only (.self _))))
  · exact ⟨by decide +kernel, by decide +kernel, .child only (.self _), rfl, by decide +kernel⟩

end Block

end PageSync
