/-!
# Markdown/Escape — punctuation and backslashes

A backslash before a punctuation mark of ASCII takes away its meaning and is not part of the text.
-/

namespace PageSync.Markdown

/-- The punctuation marks of ASCII. -/
def isMark (c : Char) : Bool :=
  let n := c.toNat
  (33 ≤ n && n ≤ 47) || (58 ≤ n && n ≤ 64) || (91 ≤ n && n ≤ 96) || (123 ≤ n && n ≤ 126)

/-- A text without the backslashes of its escapes. -/
def unescape : List Char → List Char
  | '\\' :: c :: rest => if isMark c then c :: unescape rest else '\\' :: unescape (c :: rest)
  | c :: rest => c :: unescape rest
  | [] => []

end PageSync.Markdown
