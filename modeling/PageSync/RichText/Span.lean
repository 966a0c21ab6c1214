import PageSync.RichText.Annotation

/-!
# RichText/Span — one run of text with its formatting
-/

namespace PageSync

/-- A run of text with the link it belongs to and its formatting. -/
structure Span where
  content : String
  link : Option String
  annotations : Annotations
  deriving DecidableEq

namespace Span

/-- A span of plain text. -/
def plain (content : String) : Span :=
  ⟨content, none, .plain⟩

/-- The single space that fills a text without spans. -/
def blank : Span :=
  plain " "

/-- The line break between two parts of a text. -/
def newline : Span :=
  plain "\n"

/-- The object of a link. -/
def linkJson : Option String → Json
  | some url => .obj [("url", .str url)]
  | none => .null

/-- The form of a span on a page. -/
def toJson (s : Span) : Json :=
  .obj [("type", .str "text"),
    ("text", .obj [("content", .str s.content), ("link", linkJson s.link)]),
    ("annotations", .obj s.annotations)]

/-- The contents of spans, joined. -/
def joinedContent (spans : List Span) : String :=
  String.join (spans.map (·.content))

end Span

end PageSync
