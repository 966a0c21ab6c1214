import PageSync.Markdown.Table
import PageSync.Markdown.Tag
import PageSync.Markdown.Target
import PageSync.Text.Letter

/-!
# Markdown/Opener — what a line opens

Each recogniser looks at the start of a line and says which block the line opens, whether or not the
block can stand there. `limit` is the number of blanks up to which a line is not indented.
-/

namespace PageSync.Markdown

/-- The line that opens a fenced code block. -/
structure Fence where
  indent : Nat
  mark : Char
  size : Nat
  info : List Char

/-- The line that opens an item of a list: its indentation, its marker and what follows. -/
structure Marker where
  indent : Nat
  mark : List Char
  tail : List Char

/-- What a line opens. -/
inductive Opener where
  | fence (f : Fence)
  | indented
  | heading (level : Nat) (text : List Char)
  | underline (mark : Char)
  | rule
  | quote (text : List Char)
  | list (m : Marker)
  /-- A footnote with its key and what follows the colon. -/
  | footnote (indent : Nat) (key rest : List Char)
  /-- A link definition with its label and what follows the colon. -/
  | definition (label rest : List Char)
  /-- A block of HTML and what follows its start. -/
  | html (start : HtmlStart) (rest : List Char)
  | blank
  | table (lines : TableLines)
  | openTable (lines : TableLines)

/-! ## Lines -/

/-- A run of one mark at the start of a text: its length and what follows. -/
def markRun (mark : Char) (cs : List Char) : Nat × List Char :=
  ((cs.takeWhile (· == mark)).length, cs.dropWhile (· == mark))

/-- The line opens a fenced code block. -/
def fence? (limit : Nat) (line : Line) : Option Fence := do
  let cs ← afterIndent limit (body line)
  let mark ← cs.head?
  let (size, rest) := markRun mark cs
  if (mark == '\x60' || mark == '~') && 3 ≤ size then
    some ⟨indentOf line, mark, size, rest.dropWhile isSpace⟩
  else none

/-- Whether the line ends a fenced code block. -/
def closesFence (f : Fence) (line : Line) : Bool :=
  match afterIndent 3 (body line) with
  | some cs =>
    let (size, rest) := markRun f.mark cs
    f.size ≤ size && rest.all isSpace
  | none => false

/-- Whether the line is indented code: four blanks, or blanks and a tab, and something after. -/
def isIndented (line : Line) : Bool :=
  let cs := body line
  match cs.dropWhile (· == ' ') with
  | '\t' :: _ :: _ => true
  | _ => startsWithBlanks 4 cs && 4 < cs.length

/-- The blanks of ASCII. -/
def isAsciiBlank (c : Char) : Bool :=
  c == ' ' || (9 ≤ c.toNat && c.toNat ≤ 13)

/-- A text without the blanks of ASCII at its ends. -/
def trimAscii (cs : List Char) : List Char :=
  ((cs.dropWhile isAsciiBlank).reverse.dropWhile isAsciiBlank).reverse

/-- The text of a heading without the marks that close it. -/
def dropClosingMarks (cs : List Char) : List Char :=
  let text := Text.trimEnd cs
  let kept := (text.reverse.dropWhile (· == '#')).reverse
  if kept.length = text.length then cs
  else
    match kept.getLast? with
    | none => []
    | some c => if Text.isBlank c then Text.trimEnd kept else cs

/-- The line is a heading. -/
def heading? (limit : Nat) (line : Line) : Option (Nat × List Char) := do
  let (level, rest) := markRun '#' (← afterIndent limit (body line))
  let ends := (rest.head?.map isSpace).getD true
  if 1 ≤ level && level ≤ 6 && ends then some (level, dropClosingMarks (trimAscii rest)) else none

/-- The line underlines a heading; the last mark tells the level. -/
def underline? (line : Line) : Option Char := do
  let cs ← afterIndent 3 (body line)
  let (marks, rest) := cs.span fun c => c == '=' || c == '-'
  if rest.all isSpace then marks.getLast? else none

/-- Whether the line is a thematic break. -/
def isRule (limit : Nat) (line : Line) : Bool :=
  match afterIndent limit (body line) with
  | some (c :: cs) =>
    (c == '-' || c == '_' || c == '*') && cs.all (fun d => d == c || isSpace d) &&
      2 ≤ (cs.filter (· == c)).length
  | _ => false

/-- The text after the mark of a quote. -/
def quote? (limit : Nat) (line : Line) : Option (List Char) :=
  match afterIndent limit (body line) with
  | some ('>' :: cs) => some cs
  | _ => none

/-- Whether the rest of a line can follow the marker of an item. -/
def isItemTail (cs : List Char) : Bool :=
  (cs.head?.map isSpace).getD true

/-- Whether a character is a decimal digit of any script. -/
def isDigit (c : Char) : Bool :=
  (Text.digitValue? c).isSome

/-- The marker of an item at the start of a text, with digits as many as `digits` admits. -/
def markerOf? (digits : Nat → Bool) (cs : List Char) : Option (List Char × List Char) :=
  let (number, rest) := cs.span isDigit
  match number, rest with
  | [], c :: tail =>
    if c == '*' || c == '+' || c == '-' then some ([c], tail)
    else if (c == '.' || c == ')') && digits 0 then some ([c], tail)
    else none
  | _, c :: tail =>
    if (c == '.' || c == ')') && digits number.length then some (number ++ [c], tail) else none
  | _, [] => none

/-- The line opens a list. -/
def marker? (limit : Nat) (line : Line) : Option Marker := do
  let (mark, tail) ← markerOf? (fun n => 1 ≤ n && n ≤ 9) (← afterIndent limit (body line))
  if isItemTail tail then some ⟨indentOf line, mark, tail⟩ else none

/-- The line opens a further item of a list whose markers end with a mark. -/
def nextMarker? (mark : Char) (limit : Nat) (line : Line) : Option Marker := do
  let (found, tail) ← markerOf? (fun n => n ≤ 9) (← afterIndent limit (body line))
  if isItemTail tail && found.getLast? = some mark then some ⟨indentOf line, found, tail⟩
  else none

/-- The line opens a block of HTML. -/
def html? (line : Line) : Option (HtmlStart × List Char) :=
  (afterIndent 3 line).bind htmlStart?

/-- The line opens a block of HTML that ends a container: not a tag in the middle of a line. -/
def breakingHtml? (limit : Nat) (line : Line) : Option (HtmlStart × List Char) := do
  let (start, rest) ← (afterIndent limit line).bind htmlStart?
  match start with
  | .tag _ name =>
    if (name ∈ blockTags || name ∈ verbatimTags) &&
        (rest.head?.map fun c => isSpace c || c == '\n').getD true then some (start, rest)
    else none
  | _ => some (start, rest)

/-! ## Definitions -/

/-- A character of the key of a footnote. -/
def isKeyChar (c : Char) : Bool :=
  !(Text.isBlank c || c == '[' || c == ']')

/-- A key between `[^` and `]`, and what follows it. -/
def footnoteKey? : List Char → Option (List Char × List Char)
  | '[' :: '^' :: cs =>
    match cs.span isKeyChar with
    | (c :: key, ']' :: rest) => some (c :: key, rest)
    | _ => none
  | _ => none

/-- The text after the bracket with which its first line starts, and the indentation of that line;
the text runs on over the lines that follow. -/
def afterBracket? : List Line → Option (Nat × List Char)
  | [] => none
  | line :: rest =>
    match afterIndent 3 line with
    | some ('[' :: cs) => some (indentOf line, cs ++ rest.flatten)
    | _ => none

/-- The text opens a footnote. -/
def footnote? (lines : List Line) : Option Opener := do
  let (indent, cs) ← afterBracket? lines
  match ← footnoteKey? ('[' :: cs) with
  | (key, ':' :: c :: rest) =>
    if isSpace c || c == '\n' then some (.footnote indent key rest) else none
  | _ => none

/-- The text opens a link definition. -/
def definition? (lines : List Line) : Option Opener := do
  match ← label? (← afterBracket? lines).2 with
  | (label, ':' :: rest) => some (.definition label rest)
  | _ => none

/-! ## Choice -/

/-- Which blocks can be opened: containers up to a depth, tables and footnotes outside of them. -/
structure Scope where
  depth : Nat
  containers : Bool
  whole : Bool

/-- **What the first of some lines opens**: the first kind that it fits, in a fixed order. -/
def opener? (scope : Scope) : List Line → Option Opener
  | [] => none
  | line :: rest =>
    ((fence? 3 line).map .fence)
      <|> (if isIndented line then some .indented else none)
      <|> ((heading? 3 line).map fun (level, text) => .heading level text)
      <|> ((underline? line).map .underline)
      <|> (if isRule 3 line then some .rule else none)
      <|> (if scope.containers then (quote? 3 line).map .quote else none)
      <|> (if scope.containers then (marker? 3 line).map .list else none)
      <|> (if scope.whole then footnote? (line :: rest) else none)
      <|> definition? (line :: rest)
      <|> ((html? line).map fun (start, after) => .html start after)
      <|> (if isBlankLine line then some .blank else none)
      <|> (if scope.whole then (pipedLines? (line :: rest)).map .table else none)
      <|> (if scope.whole then (openLines? (line :: rest)).map .openTable else none)

/-- What a line opens that ends the lazy lines of a quote. -/
def quoteBreaker? (line : Line) : Option Opener :=
  (if isBlankLine line then some .blank else none)
    <|> (if isRule 3 line then some .rule else none)
    <|> ((fence? 3 line).map .fence)
    <|> ((marker? 3 line).map .list)
    <|> ((breakingHtml? 3 line).map fun (start, after) => .html start after)

/-- What a line does to an item that it does not continue. -/
inductive ItemBreak where
  | item (m : Marker)
  | list
  | opener (o : Opener)

/-- What a line opens that ends an item; `limit` depends on the marker of the item. -/
def itemBreaker? (mark : Char) (limit : Nat) (line : Line) : Option ItemBreak :=
  (if isRule limit line then some (.opener .rule) else none)
    <|> ((nextMarker? mark limit line).map .item)
    <|> ((fence? limit line).map fun f => .opener (.fence f))
    <|> ((heading? limit line).map fun (level, text) => .opener (.heading level text))
    <|> ((quote? limit line).map fun text => .opener (.quote text))
    <|> ((breakingHtml? limit line).map fun (start, after) => .opener (.html start after))
    <|> ((marker? limit line).map fun _ => .list)

end PageSync.Markdown
