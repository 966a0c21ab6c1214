import PageSync.Markdown.Entity
import PageSync.Markdown.Escape
import PageSync.Text.Percent

/-!
# Markdown/Address — the addresses of links

The character references of an address are replaced, and then whatever is neither unreserved nor one
of the delimiters of an address is written by its bytes. A percent sign stays.
-/

namespace PageSync.Markdown

/-- The delimiters that an address keeps. -/
def addressMarks : List Char :=
  ":/?#@!$&()*+,;=%".toList

/-- An address as it is handed on. -/
def address (cs : List Char) : String :=
  String.ofList <| Text.percentEncode (fun c => Text.isUnreserved c || addressMarks.contains c)
    (decodeEntities cs)

/-- An address from a text with escapes. -/
def escapedAddress (cs : List Char) : String :=
  address (unescape cs)

end PageSync.Markdown
