import PageSync.Document.Node

/-!
# Document/Token — the tokens of a reader, and the canonical form of what they say

A reader of Markdown leaves a forest of tokens. `Token.canonical` gives each token its node in the
closed grammar: tight list text becomes a paragraph, a table loses the split into head and body, a
soft line break becomes text, and tokens without content in the grammar vanish.
-/

namespace PageSync

/-- What a token becomes. -/
inductive Role where
  /-- A node with children. -/
  | container (kind : Kind)
  /-- A node with raw text. -/
  | leaf (kind : Kind)
  | code
  | table
  | tableHead
  | tableBody
  | tableRow
  | tableCell
  | softbreak
  | linebreak
  | dropped
  deriving DecidableEq, Repr

/-- The role of each type of token; the types that are not named are dropped. -/
def roles : List (String × Role) :=
  [("heading", .container (.block .heading)),
    ("paragraph", .container (.block .paragraph)),
    ("block_text", .container (.block .paragraph)),
    ("block_quote", .container (.block .blockQuote)),
    ("list", .container (.block .list)),
    ("list_item", .container (.block .listItem)),
    ("thematic_break", .container (.block .thematicBreak)),
    ("footnote_definition", .container (.block .footnoteDefinition)),
    ("strong", .container (.inline .strong)),
    ("emphasis", .container (.inline .emphasis)),
    ("strikethrough", .container (.inline .strikethrough)),
    ("link", .container (.inline .link)),
    ("image", .container (.inline .image)),
    ("text", .leaf (.inline .text)),
    ("codespan", .leaf (.inline .codespan)),
    ("block_html", .leaf (.block .htmlBlock)),
    ("inline_html", .leaf (.inline .htmlInline)),
    ("footnote_ref", .leaf (.inline .footnoteRef)),
    ("definition", .leaf (.block .definition)),
    ("block_code", .code),
    ("table", .table),
    ("table_head", .tableHead),
    ("table_body", .tableBody),
    ("table_row", .tableRow),
    ("table_cell", .tableCell),
    ("softbreak", .softbreak),
    ("linebreak", .linebreak)]

/-- The role of a type of token. -/
def Role.ofName (name : String) : Role :=
  (roles.lookup name).getD .dropped

/-- A token with its type, its raw text, its attributes and its children, each possibly absent. -/
inductive Token where
  | mk (type : Option String) (raw : Option String) (attrs : Option Fields)
      (children : Option (List Token))
  deriving Inhabited

namespace Token

/-- The type of a token, if it has one. -/
def type? : Token → Option String
  | .mk type _ _ _ => type

/-- The raw text of a token, if it has one. -/
def raw? : Token → Option String
  | .mk _ raw _ _ => raw

/-- The attributes of a token, if it has some. -/
def attrs? : Token → Option Fields
  | .mk _ _ attrs _ => attrs

/-- The children of a token, if it has a list of them. -/
def children? : Token → Option (List Token)
  | .mk _ _ _ children => children

/-- The role of a token; a token without a type is dropped. -/
def role (t : Token) : Role :=
  Role.ofName (t.type?.getD "")

/-- Attributes that say something. -/
def someAttrs : Option Fields → Option Fields
  | some (a :: as) => some (a :: as)
  | _ => none

/-- The text of a code block without its last line end. -/
def codeText (raw : String) : String :=
  let cs := raw.toList
  if cs.getLast? = some '\n' then String.ofList cs.dropLast else raw

/-- The attributes of a code block: its info string, when there is one. -/
def codeAttrs (attrs : Option Fields) : Option Fields :=
  match attrs.bind (·.lookup "info") with
  | some info => if info.truthy then some [("info", info)] else none
  | none => none

/-! ## Canonical form -/

mutual

/-- The nodes of one token. -/
def canonical : Token → List Node
  | .mk type raw attrs children =>
    match Role.ofName (type.getD "") with
    | .container kind =>
      [.mk (some kind) none (someAttrs attrs)
        (if kind = .block .thematicBreak then none else some (canonicalChildren children))]
    | .leaf kind => [.mk (some kind) (some (raw.getD "")) (someAttrs attrs) none]
    | .code =>
      [.mk (some (.block .blockCode)) (some (codeText (raw.getD ""))) (codeAttrs attrs) none]
    | .table => [.mk (some (.block .table)) none none (some (tableRows children))]
    | .softbreak => [Node.text "\n"]
    | .linebreak => [.mk (some (.inline .linebreak)) none none none]
    | _ => []

/-- The merged nodes of the children of a token. -/
def canonicalChildren : Option (List Token) → List Node
  | none => []
  | some ts => Node.mergeText (canonicalPieces ts)

/-- The nodes of a list of tokens, one token after the other. -/
def canonicalPieces : List Token → List Node
  | [] => []
  | t :: ts => canonical t ++ canonicalPieces ts

/-- The rows of a table. -/
def tableRows : Option (List Token) → List Node
  | none => []
  | some parts => partsRows parts

/-- The rows of the parts of a table. -/
def partsRows : List Token → List Node
  | [] => []
  | p :: ps => partRows p ++ partsRows ps

/-- The rows of one part: the head is a row itself, the body is a list of rows. -/
def partRows : Token → List Node
  | .mk type _ _ children =>
    match Role.ofName (type.getD "") with
    | .tableHead => [.mk (some .tableRow) none none (some (rowCells children))]
    | .tableBody => bodyRows children
    | _ => []

/-- The rows of the body of a table. -/
def bodyRows : Option (List Token) → List Node
  | none => []
  | some rows => rowNodes rows

/-- The rows among the tokens of a body. -/
def rowNodes : List Token → List Node
  | [] => []
  | r :: rs => rowNode r ++ rowNodes rs

/-- The row of a token, if it is one. -/
def rowNode : Token → List Node
  | .mk type _ _ children =>
    match Role.ofName (type.getD "") with
    | .tableRow => [.mk (some .tableRow) none none (some (rowCells children))]
    | _ => []

/-- The cells of a row. -/
def rowCells : Option (List Token) → List Node
  | none => []
  | some cells => cellNodes cells

/-- The cells among the tokens of a row. -/
def cellNodes : List Token → List Node
  | [] => []
  | c :: cs => cellNode c ++ cellNodes cs

/-- The cell of a token, if it is one. -/
def cellNode : Token → List Node
  | .mk type _ _ children =>
    match Role.ofName (type.getD "") with
    | .tableCell => [.mk (some .tableCell) none none (some (canonicalChildren children))]
    | _ => []

end

/-- **The canonical document of a forest of tokens.** -/
def normalize (tokens : List Token) : List Node :=
  Node.mergeText (canonicalPieces tokens)

/-! ## Tokens that a reader makes -/

/-- A token with raw text. -/
def leaf (type raw : String) : Token :=
  .mk (some type) (some raw) none none

/-- A token with children. -/
def branch (type : String) (children : List Token) : Token :=
  .mk (some type) none none (some children)

/-- A token with attributes and children. -/
def branchWith (type : String) (attrs : Fields) (children : List Token) : Token :=
  .mk (some type) none (some attrs) (some children)

/-- A token that is only its type. -/
def bare (type : String) : Token :=
  .mk (some type) none none none

/-- A text token. -/
def text (raw : String) : Token :=
  leaf "text" raw

end Token

end PageSync
