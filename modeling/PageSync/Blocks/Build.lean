import PageSync.Blocks.Basic
import PageSync.RichText.Build
import PageSync.Text.Blank

/-!
# Blocks/Build — nodes as blocks

Every block node becomes blocks, whatever its shape: a paragraph, heading, quote or code block one
block, a list one block per item, a table one paragraph of lines. Kinds without a counterpart become
a blank paragraph. Warnings are collected in the order in which the losses are met.
-/

namespace PageSync

/-- The blocks built so far and the warnings met on the way. -/
structure Draft where
  blocks : List Block
  warnings : List Warning

namespace Draft

/-- Nothing built yet. -/
def empty : Draft :=
  ⟨[], []⟩

/-- Note a warning. -/
def warn (draft : Draft) (w : Warning) : Draft :=
  { draft with warnings := draft.warnings ++ [w] }

/-- The spans of inline children, their warnings noted. -/
def inline (draft : Draft) (children : Option (List Node)) : List Span × Draft :=
  let (spans, notes) := RichText.ofChildren .plain none children (some draft.warnings)
  (spans, { draft with warnings := notes.getD draft.warnings })

end Draft

namespace Block

/-- The language of code without an info string. -/
def defaultLanguage : String :=
  "plain text"

/-- The language that an info string names: its first word. -/
def languageOf (info : Option Json) : String :=
  match (info.bind (·.string?)).map fun s => Text.words s.toList with
  | some (word :: _) => String.ofList word
  | _ => defaultLanguage

/-- The style of a heading: levels below the first count as the first, above the third as the
third. -/
def headingStyle (level : Int) : TextStyle :=
  if level ≤ 1 then .heading1 else if level = 2 then .heading2 else .heading3

/-- The level of a heading. -/
def levelOf (attrs : Option Fields) : Int :=
  ((attrs.bind (·.lookup "level")).bind (·.int?)).getD 1

/-- Whether the items of a list are numbered. -/
def isOrdered (attrs : Option Fields) : Bool :=
  ((attrs.bind (·.lookup "ordered")).map Json.truthy).getD false

/-- The style of the items of a list. -/
def itemStyle (ordered : Bool) : TextStyle :=
  if ordered then .numberedItem else .bulletedItem

/-- The text of a table: cells side by side, rows below each other. -/
def tableText (rows : List Node) : String :=
  "\n".intercalate <| rows.map fun row =>
    " | ".intercalate <| row.children.map fun cell => RichText.plainTextOfNodes cell.children

/-- Parts of a quote in a row, each two with a line break between them. -/
def joinParts : List (List Span) → List Span
  | [] => []
  | [part] => part
  | part :: rest => part ++ Span.newline :: joinParts rest

/-- One block for a list item: its first paragraph. The rest of the item is given up. -/
def ofItem (ordered : Bool) (item : Node) (draft : Draft) : Block × Draft :=
  let (spans, dropped, draft) : List Span × List Node × Draft :=
    match item.children with
    | first :: rest =>
      if first.kind? = some (.block .paragraph) then
        let (spans, draft) := draft.inline first.children?
        (spans, rest, draft)
      else ([], first :: rest, draft)
    | [] => ([], [], draft)
  let draft :=
    if dropped.isEmpty then draft
    else draft.warn (.listItemTruncated (dropped.map fun n => n.kind.name))
  (ofSpans (itemStyle ordered) spans, draft)

/-- One block for each item of a list. -/
def ofItems (ordered : Bool) : List Node → Draft → List Block × Draft
  | [], draft => ([], draft)
  | item :: rest, draft =>
    let (block, draft) := ofItem ordered item draft
    let (blocks, draft) := ofItems ordered rest draft
    (block :: blocks, draft)

mutual

/-- **The blocks of one node**, whatever its shape. -/
def ofNode : Node → Draft → List Block × Draft
  | .mk kind raw attrs children, draft =>
    match kind with
    | some (.block .paragraph) =>
      let (spans, draft) := draft.inline children
      ([ofSpans .paragraph spans], draft)
    | some (.block .heading) =>
      let (spans, draft) := draft.inline children
      ([ofSpans (headingStyle (levelOf attrs)) spans], draft)
    | some (.block .blockQuote) =>
      let (parts, draft) := quoteParts children draft
      ([ofSpans .quote (joinParts parts)], draft)
    | some (.block .blockCode) =>
      ([.code (languageOf (attrs.bind (·.lookup "info"))) [.plain (raw.getD "")]], draft)
    | some (.block .list) => ofItems (isOrdered attrs) (children.getD []) draft
    | some (.block .listItem) =>
      let (block, draft) := ofItem false (.mk kind raw attrs children) draft
      ([block], draft)
    | some (.block .thematicBreak) => ([.divider], draft)
    | some (.block .table) =>
      let content := tableText (children.getD [])
      ([.text .paragraph [.plain (if content = "" then " " else content)]], draft)
    | _ =>
      ([ofSpans .paragraph []], draft.warn (.unsupportedBlock (kind.getD (.other "")).name))

/-- The parts of a quote, one for each child that has text. -/
def quoteParts : Option (List Node) → Draft → List (List Span) × Draft
  | none, draft => ([], draft)
  | some nodes, draft => quotePartsOf nodes draft

/-- The parts of a quote that the nodes of a list give: a paragraph its spans, any other node the
text of the first block it becomes. -/
def quotePartsOf : List Node → Draft → List (List Span) × Draft
  | [], draft => ([], draft)
  | n :: rest, draft =>
    if n.kind? = some (.block .paragraph) then
      let (spans, draft) := draft.inline n.children?
      let (parts, draft) := quotePartsOf rest draft
      (spans :: parts, draft)
    else
      let (blocks, draft) := ofNode n draft
      let (parts, draft) := quotePartsOf rest draft
      ((blocks.head?.bind (·.spans?)).toList ++ parts, draft)

end

/-- Add the blocks of a root node; an inline node at the root is skipped. -/
def addRoot (draft : Draft) (root : Node) : Draft :=
  match root.kind with
  | .inline k => draft.warn (.rootInlineSkipped k.name)
  | _ =>
    let (blocks, draft) := ofNode root draft
    { draft with blocks := draft.blocks ++ blocks }

/-- **The blocks of a document** and the warnings that its conversion gives. -/
def ofNodes (roots : List Node) : Draft :=
  roots.foldl addRoot .empty

end Block

end PageSync
