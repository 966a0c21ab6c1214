/-!
# Document/Kind — the kinds of nodes of a canonical document

The grammar of documents is closed: block kinds, inline kinds and the two parts of a table. A
document built by hand may also hold kinds that the grammar does not know.
-/

namespace PageSync

/-- What a table says of a key stands in it. -/
theorem mem_of_lookup {α β : Type} [BEq α] [LawfulBEq α] {table : List (α × β)} {key : α}
    {value : β} (h : table.lookup key = some value) : (key, value) ∈ table := by
  obtain ⟨before, after, rfl, -⟩ := List.lookup_eq_some_iff.mp h
  exact List.mem_append_right before List.mem_cons_self

/-- Kinds of block nodes. -/
inductive BlockKind where
  | paragraph
  | heading
  | blockQuote
  | blockCode
  | list
  | listItem
  | thematicBreak
  | table
  | htmlBlock
  | definition
  | footnoteDefinition
  deriving DecidableEq, Repr

/-- Kinds of inline nodes. -/
inductive InlineKind where
  | text
  | strong
  | emphasis
  | strikethrough
  | codespan
  | link
  | linebreak
  | image
  | imageReference
  | linkReference
  | footnoteRef
  | htmlInline
  deriving DecidableEq, Repr

/-- The kind of a node. -/
inductive Kind where
  | block (kind : BlockKind)
  | inline (kind : InlineKind)
  | tableRow
  | tableCell
  | other (name : String)
  deriving DecidableEq, Repr

namespace BlockKind

/-- Every block kind. -/
def all : List BlockKind :=
  [.paragraph, .heading, .blockQuote, .blockCode, .list, .listItem, .thematicBreak, .table,
    .htmlBlock, .definition, .footnoteDefinition]

theorem mem_all (k : BlockKind) : k ∈ all := by
  cases k <;> decide

/-- The name of a block kind. -/
def name : BlockKind → String
  | .paragraph => "paragraph"
  | .heading => "heading"
  | .blockQuote => "block_quote"
  | .blockCode => "block_code"
  | .list => "list"
  | .listItem => "list_item"
  | .thematicBreak => "thematic_break"
  | .table => "table"
  | .htmlBlock => "html_block"
  | .definition => "definition"
  | .footnoteDefinition => "footnote_definition"

/-- Block kinds without a counterpart on a page: a blank paragraph stands in for them. -/
def unsupported : List BlockKind :=
  [.htmlBlock, .definition, .footnoteDefinition]

end BlockKind

namespace InlineKind

/-- Every inline kind. -/
def all : List InlineKind :=
  [.text, .strong, .emphasis, .strikethrough, .codespan, .link, .linebreak, .image,
    .imageReference, .linkReference, .footnoteRef, .htmlInline]

theorem mem_all (k : InlineKind) : k ∈ all := by
  cases k <;> decide

/-- The name of an inline kind. -/
def name : InlineKind → String
  | .text => "text"
  | .strong => "strong"
  | .emphasis => "emphasis"
  | .strikethrough => "strikethrough"
  | .codespan => "codespan"
  | .link => "link"
  | .linebreak => "linebreak"
  | .image => "image"
  | .imageReference => "image_reference"
  | .linkReference => "link_reference"
  | .footnoteRef => "footnote_ref"
  | .htmlInline => "html_inline"

/-- The formatting wrappers and the annotation flag that each of them sets. -/
def wrapperFlags : List (InlineKind × String) :=
  [(.strong, "bold"), (.emphasis, "italic"), (.strikethrough, "strikethrough")]

/-- The flag that a wrapper sets; other kinds are no wrappers. -/
def flag? (k : InlineKind) : Option String :=
  wrapperFlags.lookup k

/-- Inline kinds that have no form in rich text. -/
def ignored : List InlineKind :=
  [.image, .imageReference, .linkReference, .footnoteRef, .htmlInline]

end InlineKind

namespace Kind

/-- Every kind that has a name of its own. -/
def known : List Kind :=
  BlockKind.all.map .block ++ InlineKind.all.map .inline ++ [.tableRow, .tableCell]

/-- The name of a kind. -/
def name : Kind → String
  | .block k => k.name
  | .inline k => k.name
  | .tableRow => "table_row"
  | .tableCell => "table_cell"
  | .other name => name

/-- The kind of a name. -/
def ofName (name : String) : Kind :=
  (known.find? fun k => k.name == name).getD (.other name)

/-- Reading the name of a kind back loses nothing of the name. -/
@[simp] theorem name_ofName (name : String) : (ofName name).name = name := by
  unfold ofName
  cases h : known.find? fun k => k.name == name with
  | none => rfl
  | some k => simpa using List.find?_some h

end Kind

end PageSync
