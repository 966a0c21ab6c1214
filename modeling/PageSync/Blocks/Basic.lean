import PageSync.RichText.Span

/-!
# Blocks/Basic — the blocks of a page

A block is a text of one of seven styles, a piece of code, or a divider.
-/

namespace PageSync

/-- The styles of text blocks. -/
inductive TextStyle where
  | paragraph
  | heading1
  | heading2
  | heading3
  | quote
  | bulletedItem
  | numberedItem
  deriving DecidableEq, Repr

/-- The name of a style. -/
def TextStyle.name : TextStyle → String
  | .paragraph => "paragraph"
  | .heading1 => "heading_1"
  | .heading2 => "heading_2"
  | .heading3 => "heading_3"
  | .quote => "quote"
  | .bulletedItem => "bulleted_list_item"
  | .numberedItem => "numbered_list_item"

/-- A block of a page. -/
inductive Block where
  | text (style : TextStyle) (spans : List Span)
  | code (language : String) (spans : List Span)
  | divider
  deriving DecidableEq

namespace Block

/-- The name of the type of a block. -/
def type : Block → String
  | .text style _ => style.name
  | .code _ _ => "code"
  | .divider => "divider"

/-- The spans of a block; a divider has none. -/
def spans? : Block → Option (List Span)
  | .text _ spans => some spans
  | .code _ spans => some spans
  | .divider => none

/-- What a block holds under the name of its type. -/
def payload : Block → Fields
  | .text _ spans => [("rich_text", .arr (spans.map Span.toJson))]
  | .code language spans =>
    [("rich_text", .arr (spans.map Span.toJson)), ("language", .str language)]
  | .divider => []

/-- The entries of a block. -/
def toFields (b : Block) : Fields :=
  [("object", .str "block"), ("type", .str b.type), (b.type, .obj b.payload)]

/-- The form of a block on a page. -/
def toJson (b : Block) : Json :=
  .obj b.toFields

/-- A text block, filled with a blank when it has no spans. -/
def ofSpans (style : TextStyle) (spans : List Span) : Block :=
  .text style (if spans.isEmpty then [.blank] else spans)

end Block

/-- What stands as rich text under the type of a block that is given as an object. -/
def primaryRichText (block : Fields) : Option Json :=
  (block.lookup (((block.lookup "type").bind (·.string?)).getD "")).bind (·.get? "rich_text")

/-- The rich text of a block on a page is that of its spans. -/
theorem primaryRichText_toFields (b : Block) :
    primaryRichText b.toFields = b.spans?.map fun spans => .arr (spans.map Span.toJson) := by
  cases b with
  | text style spans => cases style <;> rfl
  | code language spans => rfl
  | divider => rfl

end PageSync
