import PageSync.Markdown.Inline
import PageSync.Markdown.Outline

/-!
# Markdown/Reader — Markdown as tokens

The block structure is read first, so that every definition is known when the text of the blocks is
read. Footnotes are numbered in the order in which the text refers to them.
-/

namespace PageSync.Markdown

/-- The blanks that are left out at the ends of the text of a block. -/
def isMarginChar (c : Char) : Bool :=
  c == ' ' || c == '\r' || c == '\n' || c == '\t' || c.toNat == 12

/-- A text without the blanks at its ends. -/
def trimMargins (cs : List Char) : List Char :=
  ((cs.dropWhile isMarginChar).reverse.dropWhile isMarginChar).reverse

/-- The tokens of the text of a block. -/
def textTokens (refs : References) (used : List String) (cs : List Char) :
    List Token × List String :=
  inlineTokens refs used (trimMargins cs)

/-- The cells of a row. -/
def cellTokens (refs : References) : List String → List (List Char) → List Token × List String
  | used, [] => ([], used)
  | used, cell :: rest =>
    let (children, used) := textTokens refs used cell
    let (cells, used) := cellTokens refs used rest
    (.branch "table_cell" children :: cells, used)

/-- The rows of a table below its header. -/
def rowTokens (refs : References) :
    List String → List (List (List Char)) → List Token × List String
  | used, [] => ([], used)
  | used, row :: rest =>
    let (cells, used) := cellTokens refs used row
    let (rows, used) := rowTokens refs used rest
    (.branch "table_row" cells :: rows, used)

/-- The attributes of a list. -/
def listAttrs (depth : Nat) (ordered : Bool) (start : Option Nat) : Fields :=
  [("depth", .int depth), ("ordered", .bool ordered)] ++
    (start.map fun n => ("start", Json.int n)).toList

mutual

/-- The token of an element. -/
def Element.token (refs : References) (used : List String) : Element → Token × List String
  | .blank => (.bare "blank_line", used)
  | .paragraph text =>
    let (children, used) := textTokens refs used text
    (.branch "paragraph" children, used)
  | .heading level text =>
    let (children, used) := textTokens refs used text
    (.branchWith "heading" [("level", .int level)] children, used)
  | .code raw info =>
    let attrs : Option Fields := info.map fun s => [("info", .str s)]
    (.mk (some "block_code") (some (String.ofList raw)) attrs none, used)
  | .rule => (.bare "thematic_break", used)
  | .quote elements =>
    let (children, used) := elementTokens refs used elements
    (.branch "block_quote" children, used)
  | .list depth ordered start items =>
    let (children, used) := itemTokens refs used items
    (.branchWith "list" (listAttrs depth ordered start) children, used)
  | .html raw => (.leaf "block_html" (String.ofList raw), used)
  | .definition raw label =>
    (.mk (some "definition") (some (String.ofList raw))
      (some [("label", .str (String.ofList label))]) none, used)
  | .footnote key elements =>
    let (children, used) := elementTokens refs used elements
    (.branchWith "footnote_definition" [("key", .str key)] children, used)
  | .table header rows =>
    let (cells, used) := cellTokens refs used header
    let (rows, used) := rowTokens refs used rows
    (.branch "table" [.branch "table_head" cells, .branch "table_body" rows], used)

/-- The tokens of a list of elements. -/
def elementTokens (refs : References) (used : List String) :
    List Element → List Token × List String
  | [] => ([], used)
  | e :: rest =>
    let (t, used) := e.token refs used
    let (ts, used) := elementTokens refs used rest
    (t :: ts, used)

/-- The tokens of the items of a list. -/
def itemTokens (refs : References) (used : List String) :
    List (List Element) → List Token × List String
  | [] => ([], used)
  | item :: rest =>
    let (children, used) := elementTokens refs used item
    let (ts, used) := itemTokens refs used rest
    (.branch "list_item" children :: ts, used)

end

/-- A source with plain line ends, the last line ended. -/
def source (markdown : String) : List Char :=
  let cs := plainLineEnds markdown.toList
  if cs.getLast? = some '\n' then cs else cs ++ ['\n']

/-- **The tokens of a Markdown text.** -/
def tokens (markdown : String) : List Token :=
  let (elements, refs) := outline (source markdown)
  (elementTokens refs [] elements).1

end PageSync.Markdown
