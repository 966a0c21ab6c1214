import PageSync.Proofs.Blocks.Walk

/-!
# Proofs/Blocks/Notices — the warnings of a document, read off its nodes

What a warning says, apart from its wording, is its notice: a code and some data.  A document has
its notices before anything is built from it.  Two frontiers find them: `Node.leavesOf` goes through
wrappers and links down to the inline nodes, `Node.unquoted` through quotes down to the other
blocks.  Each node of a frontier gives the notices of its kind, and these, in document order, are
the notices of the warnings that the builder collects (`notices_of_blocks`).
-/

namespace PageSync

/-- The code and the data of a warning. -/
abbrev Notice := String × Fields

/-- What a warning says apart from its wording. -/
def Warning.notice (w : Warning) : Notice :=
  (w.code, w.context)

namespace Node

/-! ## Blocks below quotes -/

mutual

/-- The blocks that a block stands for in a quote: those below a quote, else the block itself. -/
def unquoted : Node → List Node
  | .mk kind raw attrs children =>
    if kind = some (.block .blockQuote) then unquotedOfChildren children
    else [.mk kind raw attrs children]

/-- The blocks below the quotes among the children of a node. -/
def unquotedOfChildren : Option (List Node) → List Node
  | none => []
  | some nodes => unquotedOf nodes

/-- **The blocks below the quotes of a list of nodes**, in document order. -/
def unquotedOf : List Node → List Node
  | [] => []
  | n :: rest => unquoted n ++ unquotedOf rest

end

theorem unquotedOf_eq (ns : List Node) : unquotedOf ns = ns.flatMap unquoted := by
  induction ns with
  | nil => rfl
  | cons n rest ih => rw [unquotedOf, ih, List.flatMap_cons]

theorem unquoted_of_quote {n : Node} (h : n.kind? = some (.block .blockQuote)) :
    n.unquoted = n.children.flatMap unquoted := by
  obtain ⟨kind, raw, attrs, _ | children⟩ := n <;> obtain rfl : kind = _ := h
  · rfl
  · exact unquotedOf_eq children

theorem unquoted_of_ne {n : Node} (h : n.kind? ≠ some (.block .blockQuote)) :
    n.unquoted = [n] := by
  obtain ⟨kind, raw, attrs, children⟩ := n
  exact if_neg h

/-- The losses of a node are those of the blocks that it stands for. -/
theorem losses_eq_unquoted (n : Node) : n.losses = n.unquoted.flatMap flatLosses := by
  induction n using fromChildren with
  | step n below =>
    by_cases h : n.kind? = some (.block .blockQuote)
    · rw [losses_of_quote h, unquoted_of_quote h, List.flatMap_assoc, List.flatMap_def,
        List.flatMap_def, List.map_congr_left below]
    · rw [losses_of_ne h, unquoted_of_ne h, List.flatMap_singleton]

/-! ## Notices -/

/-- The notices of inline nodes: one for each leaf that shows no text. -/
def inlineNotices (ns : List Node) : List Notice :=
  ((leavesOf ns).filter fun n => n.shown?.isNone).map fun n =>
    ("INLINE_DROPPED", [("type", .str n.kind.name)])

/-- The notices of an item: those of the paragraph at its start, and one that names the rest. -/
def itemNotices (item : Node) : List Notice :=
  inlineNotices item.lead ++
    if item.tail = [] then []
    else [("LIST_ITEM_TRUNCATED", [("dropped", .arr (item.tail.map fun n => .str n.kind.name))])]

/-- The notices of a block that is no quote. -/
def blockNotices (n : Node) : List Notice :=
  match n.kind? with
  | some (.block .paragraph) | some (.block .heading) => inlineNotices n.children
  | some (.block .list) => n.children.flatMap itemNotices
  | some (.block .listItem) => n.itemNotices
  | some (.block .table) | some (.block .blockCode) | some (.block .thematicBreak) => []
  | _ => [("UNSUPPORTED_BLOCK", [("type", .str n.kind.name)])]

/-- **The notices of a root**: an inline node is one, any other node has those of the blocks that it
stands for. -/
def rootNotices (n : Node) : List Notice :=
  match n.kind with
  | .inline k => [("ROOT_INLINE_SKIPPED", [("type", .str k.name)])]
  | _ => n.unquoted.flatMap blockNotices

theorem notice_losses (ns : List Node) :
    (RichText.losses ns).map Warning.notice = inlineNotices ns := by
  rw [RichText.losses, inlineNotices]
  induction leavesOf ns with
  | nil => rfl
  | cons leaf rest ih =>
    rw [List.flatMap_cons, List.map_append, ih, RichText.leafLosses]
    cases h : leaf.shown? <;> simp [h, Warning.notice, Warning.code, Warning.context]

theorem notice_itemLosses (item : Node) :
    item.itemLosses.map Warning.notice = item.itemNotices := by
  rw [itemLosses, itemNotices, List.map_append, notice_losses]
  cases item.tail with
  | nil => rfl
  | cons n rest => simp [Warning.notice, Warning.code, Warning.context]

theorem notice_flatLosses (n : Node) : n.flatLosses.map Warning.notice = n.blockNotices := by
  obtain ⟨kind, raw, attrs, children⟩ := n
  match kind with
  | some (.block .paragraph) | some (.block .heading) => exact notice_losses _
  | some (.block .list) =>
    refine (List.map_flatMap ..).trans ?_
    simp only [notice_itemLosses]
    rfl
  | some (.block .listItem) => exact notice_itemLosses _
  | some (.block .table) | some (.block .blockCode) | some (.block .thematicBreak)
  | some (.block .blockQuote) | some (.block .htmlBlock) | some (.block .definition)
  | some (.block .footnoteDefinition) | none | some (.inline _) | some .tableRow | some .tableCell
  | some (.other _) => rfl

theorem notice_rootLosses (n : Node) : n.rootLosses.map Warning.notice = n.rootNotices := by
  rw [rootLosses, rootNotices]
  cases n.kind with
  | inline k => rfl
  | block _ | tableRow | tableCell | other _ =>
    simp only [losses_eq_unquoted, List.map_flatMap, notice_flatLosses]

end Node

/-- **Warnings are exact and in document order.**  Whatever the nodes of a document, the codes and
the data of its warnings are the notices of its roots, one root after the other. -/
theorem Block.notices_of_blocks (roots : List Node) :
    (ofNodes roots).warnings.map Warning.notice = roots.flatMap Node.rootNotices := by
  rw [ofNodes_eq, List.map_flatMap]
  simp only [Node.notice_rootLosses]

/-- An image in a quoted paragraph, the items of a quoted list and inline text that stands in a
quote, each with its notice, though the quote shows only the first of these items. -/
example :
    let paragraph (ns : List Node) : Node := .mk (some (.block .paragraph)) none none (some ns)
    let item (ns : List Node) : Node := .mk (some (.block .listItem)) none none (some ns)
    let image : Node := .mk (some (.inline .image)) none none none
    let quote : Node := .mk (some (.block .blockQuote)) none none (some [paragraph [image],
      .mk (some (.block .list)) none none (some [item [paragraph []], item [image]]), .text "a"])
    (Block.ofNodes [quote, .text "b"]).warnings.map Warning.notice =
      [("INLINE_DROPPED", [("type", .str "image")]),
        ("LIST_ITEM_TRUNCATED", [("dropped", .arr [.str "image"])]),
        ("UNSUPPORTED_BLOCK", [("type", .str "text")]),
        ("ROOT_INLINE_SKIPPED", [("type", .str "text")])] := by
  decide

end PageSync
