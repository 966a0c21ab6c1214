import PageSync.Proofs.Blocks.Walk

/-!
# Proofs/Blocks/Outline — the text of a document, block by block

`Block.outline` forgets formatting and keeps the type of a block and its text.  `Node.outlines` says
what these are for a root that is no quote, from the nodes alone: its kind gives the type, the plain
text of its nodes the text.  A text without any leaf that shows something is filled with a space,
which is not the same as an empty text (`filledText`).  The builder gives just these outlines, in
the order of the roots (`outlines_of_blocks`).
-/

namespace PageSync

/-- The type and the text of a block; a divider has no text. -/
def Block.outline (b : Block) : String × Option String :=
  (b.type, b.spans?.map Span.joinedContent)

namespace Node

/-- The plain text of some inline nodes, or a space when none of their leaves shows any. -/
def filledText (ns : List Node) : String :=
  if ∃ leaf ∈ leavesOf ns, leaf.shown?.isSome then RichText.plainTextOfNodes ns else " "

/-- The level of a heading, the first when the node names none. -/
def level (n : Node) : Int :=
  ((n.attr? "level").bind (·.int?)).getD 1

/-- The outline of an item. -/
def itemOutline (ordered : Bool) (item : Node) : String × Option String :=
  (if ordered then "numbered_list_item" else "bulleted_list_item", some (filledText item.lead))

/-- The text of a table, or a space when there is none. -/
def tableOutline (table : Node) : String × Option String :=
  let text := "\n".intercalate <| table.children.map fun row =>
    " | ".intercalate <| row.children.map fun cell => RichText.plainTextOfNodes cell.children
  ("paragraph", some (if text = "" then " " else text))

/-- **The outlines that a node should have**, one for each item of a list and else one. -/
def outlines (n : Node) : List (String × Option String) :=
  match n.kind? with
  | some (.block .paragraph) => [("paragraph", some (filledText n.children))]
  | some (.block .heading) =>
    [("heading_" ++ toString (max 1 (min n.level 3)), some (filledText n.children))]
  | some (.block .blockCode) => [("code", some n.raw)]
  | some (.block .list) => n.children.map (itemOutline (Block.isOrdered n.attrs?))
  | some (.block .listItem) => [itemOutline false n]
  | some (.block .thematicBreak) => [("divider", none)]
  | some (.block .table) => [n.tableOutline]
  | _ => [("paragraph", some " ")]

/-- A list has one outline for each item, every other node one. -/
theorem length_outlines (n : Node) :
    n.outlines.length = if n.kind? = some (.block .list) then n.children.length else 1 := by
  rw [outlines]
  split
  case h_4 hk => rw [List.length_map, if_pos hk]
  case h_8 hlist _ _ _ => exact (if_neg hlist).symm
  all_goals rename_i hk; rw [hk]; rfl

end Node

namespace Block

/-- The name of a heading has its level, kept between one and three. -/
theorem name_headingStyle (level : Int) :
    (headingStyle level).name = "heading_" ++ toString (max 1 (min level 3)) := by
  rw [headingStyle]
  split
  next h => rw [show max 1 (min level 3) = 1 by omega]; rfl
  next h =>
    split
    next h2 => rw [h2]; rfl
    next h2 => rw [show max 1 (min level 3) = 3 by omega]; rfl

theorem joinedContent_plain (s : String) : Span.joinedContent [.plain s] = s := by
  simp [Span.joinedContent, Span.plain]

/-- The outline of the block that some inline nodes fill. -/
theorem outline_ofSpans (style : TextStyle) (ns : List Node) :
    (ofSpans style (RichText.spans ns)).outline = (style.name, some (Node.filledText ns)) := by
  rw [ofSpans, RichText.isEmpty_spans, Node.filledText]
  by_cases h : ∃ leaf ∈ Node.leavesOf ns, leaf.shown?.isSome = true
  · rw [if_pos h, List.any_eq_true.mpr h]
    exact congrArg (fun s => (style.name, some s)) (RichText.joinedContent_spans ns)
  · rw [if_neg h, Bool.eq_false_iff.mpr (mt List.any_eq_true.mp h)]
    exact congrArg (fun s => (style.name, some s)) (joinedContent_plain " ")

theorem outline_itemBlock (ordered : Bool) (item : Node) :
    (item.itemBlock ordered).outline = item.itemOutline ordered := by
  rw [Node.itemBlock, outline_ofSpans]
  cases ordered <;> rfl

/-- The outlines of the blocks of a node that is no quote. -/
theorem outlines_flatBlocks (n : Node) : n.flatBlocks.map outline = n.outlines := by
  obtain ⟨kind, raw, attrs, children⟩ := n
  match kind with
  | some (.block .paragraph) => exact congrArg ([·]) (outline_ofSpans .paragraph _)
  | some (.block .heading) =>
    refine congrArg ([·]) ((outline_ofSpans _ _).trans ?_)
    rw [name_headingStyle]
    rfl
  | some (.block .blockCode) => exact congrArg (fun s => [("code", some s)]) (joinedContent_plain _)
  | some (.block .list) =>
    refine (List.map_map ..).trans (List.map_congr_left fun item _ => ?_)
    exact outline_itemBlock _ item
  | some (.block .listItem) => exact congrArg ([·]) (outline_itemBlock false _)
  | some (.block .thematicBreak) => rfl
  | some (.block .table) =>
    exact congrArg (fun s => [("paragraph", some s)]) (joinedContent_plain _)
  | some (.block .blockQuote) | some (.block .htmlBlock) | some (.block .definition)
  | some (.block .footnoteDefinition) | none | some (.inline _) | some .tableRow | some .tableCell
  | some (.other _) => exact congrArg ([·]) (outline_ofSpans .paragraph [])

/-- **Text and order are kept.**  In a document whose roots are blocks other than quotes, the
blocks have the outlines of the roots, one root after the other; and a root has one outline, or as
many as it has items when it is a list. -/
theorem outlines_of_blocks (roots : List Node)
    (h : ∀ n ∈ roots, ∃ k, n.kind? = some (.block k) ∧ k ≠ .blockQuote) :
    (ofNodes roots).blocks.map outline = roots.flatMap Node.outlines ∧
      ∀ n ∈ roots, n.outlines.length =
        if n.kind? = some (.block .list) then n.children.length else 1 := by
  refine ⟨?_, fun n _ => n.length_outlines⟩
  rw [ofNodes_eq, List.map_flatMap, List.flatMap_def, List.flatMap_def]
  refine congrArg List.flatten (List.map_congr_left fun n hn => ?_)
  obtain ⟨k, hk, hne⟩ := h n hn
  have hroot : n.rootBlocks = n.flatBlocks := by
    rw [Node.rootBlocks, Node.kind, hk]
    exact Node.blocks_of_ne (by rw [hk]; simpa using hne)
  rw [hroot, outlines_flatBlocks]

/-- A paragraph with empty text stays empty, one with only an image is filled; a heading below the
third level is one of the third; an item that is no paragraph is filled. -/
theorem outlines_of_mixed_blocks :
    let doc : List Node :=
      [.mk (some (.block .heading)) none (some [("level", .int 6)])
          (some [.text "A", .mk (some (.inline .strong)) none none (some [.text "b"])]),
        .mk (some (.block .paragraph)) none none (some [.text ""]),
        .mk (some (.block .paragraph)) none none
          (some [.mk (some (.inline .image)) none none none]),
        .mk (some (.block .list)) none none (some
          [.mk (some (.block .listItem)) none none
              (some [.mk (some (.block .paragraph)) none none (some [.text "one"])]),
            .mk (some (.block .listItem)) none none
              (some [.mk (some (.block .blockCode)) (some "two") none none])]),
        .mk (some (.block .thematicBreak)) none none none]
    (∀ n ∈ doc, ∃ k, n.kind? = some (.block k) ∧ k ≠ .blockQuote) ∧
      (ofNodes doc).blocks.map outline =
        [("heading_3", some "Ab"), ("paragraph", some ""), ("paragraph", some " "),
          ("bulleted_list_item", some "one"), ("bulleted_list_item", some " "),
          ("divider", none)] := by
  intro doc
  have kinds : ∀ n ∈ doc, ∃ k, n.kind? = some (.block k) ∧ k ≠ .blockQuote := by
    simp [doc, Node.kind?]
  exact ⟨kinds, (outlines_of_blocks doc kinds).1.trans (by decide +kernel)⟩

end Block

end PageSync
