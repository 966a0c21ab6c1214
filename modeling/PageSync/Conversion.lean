import PageSync.Blocks.Build
import PageSync.Config
import PageSync.Document.Token
import PageSync.Journal
import PageSync.Markdown.Reader
import PageSync.Redaction

/-!
# Conversion — a document as blocks

A document is read, brought into its canonical form, and built as blocks. What the settings ask for
is shown and counted on the way, and never changes the result.
-/

namespace PageSync

/-- The blocks of a document and what was lost on the way. -/
structure Conversion where
  blocks : List Block
  warnings : List Warning

namespace Conversion

/-- The conversion of a canonical document. -/
def ofNodes (nodes : List Node) : Conversion :=
  let draft := Block.ofNodes nodes
  ⟨draft.blocks, draft.warnings⟩

/-- **The conversion of a document.** -/
def ofMarkdown (markdown : String) : Conversion :=
  ofNodes (Token.normalize (Markdown.tokens markdown))

/-- A value shown under a heading. -/
def shown (heading : String) (value : Json) : String :=
  heading ++ " " ++ value.render .unicodeBlock ++ "\n"

/-- The canonical document as it is shown. -/
def astText (nodes : List Node) : String :=
  shown "[drive2notion] Normalized AST:" (.arr (Node.listJson nodes))

/-- The blocks as they are shown, without secrets. -/
def blocksText (token : String) (blocks : List Block) : String :=
  shown "[drive2notion] Notion blocks payload:"
    (.arr (Redaction.redactItems (some token) (blocks.map Block.toJson)))

/-- What a conversion adds to a journal. -/
def observe (s : Settings) (nodes : List Node) (c : Conversion) (j : Journal) : Journal :=
  let j := j.dump s.dumpAst (astText nodes)
  let j := j.measure (s.recordMetrics && !c.warnings.isEmpty)
    (.count "drive2notion.conversion_warnings_total" c.warnings.length none)
  j.dump s.dumpPayload (blocksText s.token c.blocks)

/-- **Convert a document** and write down what the settings ask for. -/
def run (s : Settings) (markdown : String) (j : Journal) : Conversion × Journal :=
  let nodes := Token.normalize (Markdown.tokens markdown)
  let c := ofNodes nodes
  (c, observe s nodes c j)

/-- Converting sends nothing. -/
@[simp] theorem requests_run (s : Settings) (markdown : String) (j : Journal) :
    (run s markdown j).2.requests = j.requests := by
  simp only [run, observe, Journal.requests_dump, Journal.requests_measure]

end Conversion

end PageSync
