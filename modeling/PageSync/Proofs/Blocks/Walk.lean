import PageSync.Blocks.Build
import PageSync.Proofs.RichText.Leaves

/-!
# Proofs/Blocks/Walk — the blocks and the losses of a document, apart

The builder hands one draft from node to node, and both its results grow on the way.  Here they are
read apart: `Node.blocks` builds and never warns, `Node.losses` warns and never builds, and the
builder is the pair of them (`ofNode_eq`, `ofNodes_eq`).  Only quotes recurse; every other node is
settled by its kind (`Node.flatBlocks`, `Node.flatLosses`).  Since neither looks at the draft, no
root has a say in what another one becomes (`independent_roots`).
-/

namespace PageSync

/-! ## Drafts -/

namespace Draft

/-- Note several warnings. -/
def warnAll (draft : Draft) (ws : List Warning) : Draft :=
  { draft with warnings := draft.warnings ++ ws }

@[simp] theorem warnAll_nil (draft : Draft) : draft.warnAll [] = draft := by
  simp [warnAll]

@[simp] theorem warnAll_warnAll (draft : Draft) (ws vs : List Warning) :
    (draft.warnAll ws).warnAll vs = draft.warnAll (ws ++ vs) := by
  simp [warnAll]

theorem warn_eq (draft : Draft) (w : Warning) : draft.warn w = draft.warnAll [w] := rfl

/-- The inline children of a node give their spans, and their losses to the draft. -/
theorem inline_eq (draft : Draft) (n : Node) :
    draft.inline n.children? =
      (RichText.spans n.children, draft.warnAll (RichText.losses n.children)) := by
  obtain ⟨kind, raw, attrs, _ | children⟩ := n
  · exact congrArg (Prod.mk _) draft.warnAll_nil.symm
  · rw [inline, Node.children?, RichText.ofChildren, RichText.ofNodes_eq]
    rfl

end Draft

/-! ## What one node gives -/

namespace Node

/-- The nodes that an item shows: those of a paragraph at its start. -/
def lead (item : Node) : List Node :=
  match item.children with
  | first :: _ => if first.kind? = some (.block .paragraph) then first.children else []
  | [] => []

/-- The nodes that an item gives up. -/
def tail (item : Node) : List Node :=
  match item.children with
  | first :: rest => if first.kind? = some (.block .paragraph) then rest else first :: rest
  | [] => []

/-- The block of an item. -/
def itemBlock (ordered : Bool) (item : Node) : Block :=
  .ofSpans (Block.itemStyle ordered) (RichText.spans item.lead)

/-- The losses of an item. -/
def itemLosses (item : Node) : List Warning :=
  RichText.losses item.lead ++
    if item.tail.isEmpty then [] else [.listItemTruncated (item.tail.map fun n => n.kind.name)]

/-- The blocks of a node that is no quote. -/
def flatBlocks (n : Node) : List Block :=
  match n.kind? with
  | some (.block .paragraph) => [.ofSpans .paragraph (RichText.spans n.children)]
  | some (.block .heading) =>
    [.ofSpans (Block.headingStyle (Block.levelOf n.attrs?)) (RichText.spans n.children)]
  | some (.block .blockCode) => [.code (Block.languageOf (n.attr? "info")) [.plain n.raw]]
  | some (.block .list) => n.children.map (itemBlock (Block.isOrdered n.attrs?))
  | some (.block .listItem) => [itemBlock false n]
  | some (.block .thematicBreak) => [.divider]
  | some (.block .table) =>
    let content := Block.tableText n.children
    [.text .paragraph [.plain (if content = "" then " " else content)]]
  | _ => [.ofSpans .paragraph []]

/-- The losses of a node that is no quote. -/
def flatLosses (n : Node) : List Warning :=
  match n.kind? with
  | some (.block .paragraph) | some (.block .heading) => RichText.losses n.children
  | some (.block .list) => n.children.flatMap itemLosses
  | some (.block .listItem) => n.itemLosses
  | some (.block .blockCode) | some (.block .thematicBreak) | some (.block .table) => []
  | _ => [.unsupportedBlock n.kind.name]

mutual

/-- **The blocks of a node.** -/
def blocks : Node → List Block
  | .mk kind raw attrs children =>
    if kind = some (.block .blockQuote) then
      [.ofSpans .quote (Block.joinParts (partsOfChildren children))]
    else flatBlocks (.mk kind raw attrs children)

/-- The parts of a quote. -/
def partsOfChildren : Option (List Node) → List (List Span)
  | none => []
  | some nodes => partsOf nodes

/-- The parts of a quote that the nodes of a list give. -/
def partsOf : List Node → List (List Span)
  | [] => []
  | n :: rest =>
    (if n.kind? = some (.block .paragraph) then [RichText.spans n.children]
      else ((blocks n).head?.bind (·.spans?)).toList) ++ partsOf rest

end

mutual

/-- **The losses of a node**, found without building a block. -/
def losses : Node → List Warning
  | .mk kind raw attrs children =>
    if kind = some (.block .blockQuote) then lossesOfChildren children
    else flatLosses (.mk kind raw attrs children)

/-- The losses of the children of a quote. -/
def lossesOfChildren : Option (List Node) → List Warning
  | none => []
  | some nodes => lossesOf nodes

/-- The losses of the nodes of a list, one node after the other. -/
def lossesOf : List Node → List Warning
  | [] => []
  | n :: rest => losses n ++ lossesOf rest

end

/-- The part that a node gives to the quote around it. -/
def part? (n : Node) : Option (List Span) :=
  if n.kind? = some (.block .paragraph) then some (RichText.spans n.children)
  else n.blocks.head?.bind (·.spans?)

theorem blocks_of_quote {n : Node} (h : n.kind? = some (.block .blockQuote)) :
    n.blocks = [.ofSpans .quote (Block.joinParts (partsOf n.children))] := by
  obtain ⟨kind, raw, attrs, _ | children⟩ := n <;> obtain rfl : kind = _ := h <;> rfl

theorem blocks_of_ne {n : Node} (h : n.kind? ≠ some (.block .blockQuote)) :
    n.blocks = n.flatBlocks := by
  obtain ⟨kind, raw, attrs, children⟩ := n
  exact if_neg h

theorem losses_of_quote {n : Node} (h : n.kind? = some (.block .blockQuote)) :
    n.losses = n.children.flatMap losses := by
  have lossesOf_eq : ∀ ns : List Node, lossesOf ns = ns.flatMap losses := by
    intro ns
    induction ns with
    | nil => rfl
    | cons n rest ih => rw [lossesOf, ih, List.flatMap_cons]
  obtain ⟨kind, raw, attrs, _ | children⟩ := n <;> obtain rfl : kind = _ := h
  · rfl
  · exact lossesOf_eq children

theorem losses_of_ne {n : Node} (h : n.kind? ≠ some (.block .blockQuote)) :
    n.losses = n.flatLosses := by
  obtain ⟨kind, raw, attrs, children⟩ := n
  exact if_neg h

theorem partsOf_eq (ns : List Node) : partsOf ns = ns.filterMap part? := by
  induction ns with
  | nil => rfl
  | cons n rest ih =>
    rw [partsOf, ih, List.filterMap_cons, part?]
    split
    · rfl
    · cases n.blocks.head?.bind (·.spans?) <;> rfl

end Node

/-! ## The builder -/

namespace Block

theorem ofItem_eq (ordered : Bool) (item : Node) (draft : Draft) :
    ofItem ordered item draft = (item.itemBlock ordered, draft.warnAll item.itemLosses) := by
  rw [ofItem, Node.itemBlock, Node.itemLosses, Node.lead, Node.tail]
  cases item.children with
  | nil => exact congrArg (Prod.mk _) draft.warnAll_nil.symm
  | cons first rest =>
    dsimp only
    split
    · rw [Draft.inline_eq]
      cases rest <;> simp [Draft.warn_eq]
    · rfl

theorem ofItems_eq (ordered : Bool) (items : List Node) : ∀ draft : Draft,
    ofItems ordered items draft =
      (items.map (Node.itemBlock ordered), draft.warnAll (items.flatMap Node.itemLosses)) := by
  induction items with
  | nil => exact fun draft => congrArg (Prod.mk _) draft.warnAll_nil.symm
  | cons item rest ih =>
    intro draft
    rw [ofItems, ofItem_eq]
    dsimp only
    rw [ih, Draft.warnAll_warnAll]
    rfl

/-- A node that is no quote gives its blocks, and its losses to the draft. -/
theorem ofNode_of_ne {n : Node} (h : n.kind? ≠ some (.block .blockQuote)) (draft : Draft) :
    ofNode n draft = (n.flatBlocks, draft.warnAll n.flatLosses) := by
  obtain ⟨kind, raw, attrs, children⟩ := n
  match kind with
  | some (.block .paragraph) =>
    exact congrArg (fun r => ([ofSpans .paragraph r.1], r.2))
      (draft.inline_eq (.mk _ raw attrs children))
  | some (.block .heading) =>
    exact congrArg (fun r => ([ofSpans (headingStyle (levelOf attrs)) r.1], r.2))
      (draft.inline_eq (.mk _ raw attrs children))
  | some (.block .blockQuote) => exact absurd rfl h
  | some (.block .list) => exact ofItems_eq _ _ draft
  | some (.block .listItem) =>
    exact congrArg (fun r => ([r.1], r.2)) (ofItem_eq false (.mk _ raw attrs children) draft)
  | some (.block .blockCode) | some (.block .thematicBreak) | some (.block .table) =>
    exact congrArg (Prod.mk _) draft.warnAll_nil.symm
  | some (.block .htmlBlock) | some (.block .definition) | some (.block .footnoteDefinition)
  | none | some (.inline _) | some .tableRow | some .tableCell | some (.other _) => rfl

/-- Nodes that give their blocks and their losses give them as parts of a quote. -/
theorem quotePartsOf_eq {ns : List Node}
    (h : ∀ n ∈ ns, ∀ draft : Draft, ofNode n draft = (n.blocks, draft.warnAll n.losses)) :
    ∀ draft : Draft,
      quotePartsOf ns draft = (Node.partsOf ns, draft.warnAll (ns.flatMap Node.losses)) := by
  induction ns with
  | nil => exact fun draft => congrArg (Prod.mk _) draft.warnAll_nil.symm
  | cons n rest ih =>
    intro draft
    have ih := ih fun m hm => h m (List.mem_cons_of_mem _ hm)
    rw [quotePartsOf, Node.partsOf, List.flatMap_cons]
    split
    next hp =>
      have hlosses : n.losses = RichText.losses n.children := by
        rw [Node.losses_of_ne (by rw [hp]; decide), Node.flatLosses, hp]
      rw [Draft.inline_eq, hlosses]
      dsimp only
      rw [ih, Draft.warnAll_warnAll]
      rfl
    next =>
      rw [h n List.mem_cons_self]
      dsimp only
      rw [ih, Draft.warnAll_warnAll]

/-- **The builder gives the blocks and the losses of a node**, whatever was built before. -/
theorem ofNode_eq (n : Node) (draft : Draft) :
    ofNode n draft = (n.blocks, draft.warnAll n.losses) := by
  induction n using Node.fromChildren generalizing draft with
  | step n below =>
    by_cases h : n.kind? = some (.block .blockQuote)
    · rw [Node.blocks_of_quote h, Node.losses_of_quote h]
      have parts := quotePartsOf_eq below draft
      obtain ⟨kind, raw, attrs, _ | children⟩ := n <;> obtain rfl : kind = _ := h
      · exact congrArg (Prod.mk _) draft.warnAll_nil.symm
      · exact congrArg (fun r => ([ofSpans .quote (joinParts r.1)], r.2)) parts
    · rw [Node.blocks_of_ne h, Node.losses_of_ne h]
      exact ofNode_of_ne h draft

end Block

/-! ## Documents -/

namespace Node

/-- The blocks of a root node: an inline node has none. -/
def rootBlocks (n : Node) : List Block :=
  match n.kind with
  | .inline _ => []
  | _ => n.blocks

/-- The losses of a root node: an inline node is one. -/
def rootLosses (n : Node) : List Warning :=
  match n.kind with
  | .inline k => [.rootInlineSkipped k.name]
  | _ => n.losses

end Node

namespace Block

theorem addRoot_eq (draft : Draft) (root : Node) :
    addRoot draft root =
      ⟨draft.blocks ++ root.rootBlocks, draft.warnings ++ root.rootLosses⟩ := by
  rw [addRoot, Node.rootBlocks, Node.rootLosses]
  cases root.kind <;> simp [ofNode_eq, Draft.warn, Draft.warnAll]

/-- **The blocks and the losses of a document** are those of its roots, in order. -/
theorem ofNodes_eq (roots : List Node) :
    ofNodes roots = ⟨roots.flatMap Node.rootBlocks, roots.flatMap Node.rootLosses⟩ := by
  have from_draft : ∀ (roots : List Node) (draft : Draft), roots.foldl addRoot draft =
      ⟨draft.blocks ++ roots.flatMap Node.rootBlocks,
        draft.warnings ++ roots.flatMap Node.rootLosses⟩ := by
    intro roots
    induction roots with
    | nil => simp
    | cons root rest ih => simp [ih, addRoot_eq]
  exact from_draft roots .empty

/-- **Roots do not influence each other.**  Two documents in a row have the blocks of the first and
then those of the second, and the warnings likewise.  For a node there are blocks and warnings that
it gives whatever a draft holds already: the warnings are added behind those that are there, and the
blocks that are there stay as they are. -/
theorem independent_roots :
    (∀ xs ys : List Node, ofNodes (xs ++ ys) =
      ⟨(ofNodes xs).blocks ++ (ofNodes ys).blocks,
        (ofNodes xs).warnings ++ (ofNodes ys).warnings⟩) ∧
    ∀ n : Node, ∃ (blocks : List Block) (warnings : List Warning), ∀ draft : Draft,
      ofNode n draft = (blocks, ⟨draft.blocks, draft.warnings ++ warnings⟩) := by
  refine ⟨fun xs ys => ?_, fun n => ⟨n.blocks, n.losses, fun draft => ?_⟩⟩
  · simp only [ofNodes_eq, List.flatMap_append]
  · rw [ofNode_eq, Draft.warnAll]

end Block

end PageSync
