import PageSync.Document.Node
import PageSync.RichText.Span
import PageSync.RichText.Warning

/-!
# RichText/Build — inline nodes as spans

Nested formatting is flattened: wrappers hand their flag, and links their address, down to the
leaves below them, and each text, code or line break leaf becomes one span, in document order. A
link inside a link keeps the outer address. What has no form in rich text is left out, with a
warning when warnings are collected.
-/

namespace PageSync

/-- Warnings that are being collected, or none when nobody asks for them. -/
abbrev Notes := Option (List Warning)

/-- Add a warning at the end of those collected. -/
def Notes.add (notes : Notes) (w : Warning) : Notes :=
  notes.map (· ++ [w])

namespace RichText

/-- The address under which the children of a link stand. -/
def linkBelow (link : Option String) (attrs : Option Fields) : Option String :=
  match link with
  | some url => some url
  | none =>
    match attrs.bind (·.lookup "url") with
    | some url => url.string?
    | none => some ""

mutual

/-- The spans of one node. -/
def ofNode (annotations : Annotations) (link : Option String) :
    Node → Notes → List Span × Notes
  | .mk kind raw attrs children, notes =>
    match kind with
    | some (.inline .text) => ([⟨raw.getD "", link, annotations⟩], notes)
    | some (.inline .strong) => ofChildren (annotations.withFlag "bold") link children notes
    | some (.inline .emphasis) => ofChildren (annotations.withFlag "italic") link children notes
    | some (.inline .strikethrough) =>
      ofChildren (annotations.withFlag "strikethrough") link children notes
    | some (.inline .codespan) =>
      ([⟨raw.getD "", link, annotations.withFlag "code"⟩], notes)
    | some (.inline .link) => ofChildren annotations (linkBelow link attrs) children notes
    | some (.inline .linebreak) => ([⟨"\n", link, annotations⟩], notes)
    | _ => ([], notes.add (.inlineDropped (kind.getD (.other "")).name))

/-- The spans of the children of a node. -/
def ofChildren (annotations : Annotations) (link : Option String) :
    Option (List Node) → Notes → List Span × Notes
  | none, notes => ([], notes)
  | some nodes, notes => ofNodes annotations link nodes notes

/-- **The spans of a list of nodes**, and the warnings collected on the way. -/
def ofNodes (annotations : Annotations) (link : Option String) :
    List Node → Notes → List Span × Notes
  | [], notes => ([], notes)
  | n :: rest, notes =>
    let (spans, notes) := ofNode annotations link n notes
    let (more, notes) := ofNodes annotations link rest notes
    (spans ++ more, notes)

end

mutual

/-- The text of one node without its formatting. -/
def plainText : Node → String
  | .mk kind raw _ children =>
    match kind with
    | some (.inline .text) => raw.getD ""
    | some (.inline .codespan) => raw.getD ""
    | some (.inline .strong) => plainTextOfChildren children
    | some (.inline .emphasis) => plainTextOfChildren children
    | some (.inline .strikethrough) => plainTextOfChildren children
    | some (.inline .link) => plainTextOfChildren children
    | some (.inline .linebreak) => "\n"
    | _ => ""

/-- The text of the children of a node without its formatting. -/
def plainTextOfChildren : Option (List Node) → String
  | none => ""
  | some nodes => plainTextOfNodes nodes

/-- **The text of a list of nodes without its formatting.** -/
def plainTextOfNodes : List Node → String
  | [] => ""
  | n :: rest => plainText n ++ plainTextOfNodes rest

end

end RichText

end PageSync
