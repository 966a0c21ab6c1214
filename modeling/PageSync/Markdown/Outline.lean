import PageSync.Markdown.Element
import PageSync.Markdown.Opener

/-!
# Markdown/Outline — reading the block structure of a document

A document is read line by line. A line that opens no block continues the paragraph before it. The
text of a quote or of an item is gathered first and then read as a document of its own, one level
deeper. A block that ends a container is read at the level of the container, and the container is
put before it.

Every function takes a bound on the number of steps; `outline` gives more than a document needs.
-/

namespace PageSync.Markdown

/-! ## Blocks without inner blocks -/

/-- The depth at which containers are no longer recognised. -/
def depthLimit : Nat :=
  20

/-- The scope inside a quote or an item. -/
def Scope.inner (scope : Scope) : Scope :=
  ⟨scope.depth + 1, scope.depth + 1 < depthLimit, false⟩

/-- The scope inside a footnote. -/
def Scope.note (scope : Scope) : Scope :=
  ⟨scope.depth + 1, true, true⟩

/-- A fenced code block, which may lack its end. -/
def readFence (f : Fence) (r : Reading) : Option Reading :=
  if f.mark == '\x60' && f.info.contains '\x60' then none
  else
    let (code, rest) := (r.rest.drop 1).span fun line => !closesFence f line
    let info := if f.info.isEmpty then none
      else some (String.ofList (Text.trim (unescape f.info)))
    some (r.add (.code (code.map (dropIndent f.indent)).flatten info) (rest.drop 1))

/-- A line and the line ends after it, and the rest of a text. -/
def spanLine (cs : List Char) : List Char × List Char :=
  let (line, rest) := cs.span (· ≠ '\n')
  let (ends, rest) := rest.span (· == '\n')
  (line ++ ends, rest)

/-- Indented code at the start of a text: its lines, and the blanks before and after them; `fuel`
bounds the number of steps. -/
def spanIndented : Nat → List Char → List Char × List Char
  | 0, cs => ([], cs)
  | fuel + 1, cs =>
    if isIndented cs then
      let (line, rest) := spanLine cs
      let (more, rest) := spanIndented fuel rest
      (line ++ more, rest)
    else
      match cs with
      | [] => ([], [])
      | c :: rest =>
        if Text.isBlank c then
          let (more, rest) := spanIndented fuel rest
          (c :: more, rest)
        else ([], c :: rest)

/-- A text without the line ends at its ends. -/
def trimLineEnds (cs : List Char) : List Char :=
  ((cs.dropWhile (· == '\n')).reverse.dropWhile (· == '\n')).reverse

/-- Indented code, which cannot interrupt a paragraph. A line that is not indented far enough for
code loses its blanks to the code before it, and is text. -/
def readIndented (r : Reading) : Reading :=
  if r.inParagraph then r.addLine
  else
    let source := r.rest.flatten
    let (code, rest) := spanIndented source.length source
    let lines := (linesOf code).map fun line => dropIndent 4 (tabToStop 4 line)
    let r := r.add (.code (trimLineEnds lines.flatten) none) (linesOf rest)
    if code.getLast? = some '\n' then r else r.addLine

/-- The lines up to the one that holds a mark, which may stand on the first line after its start. -/
def takeThrough (mark first : List Char) (lines : List Line) : List Line × List Line :=
  match lines with
  | [] => ([], [])
  | line :: rest =>
    if (afterFirst? mark first).isSome then ([line], rest)
    else
      let (before, after) := rest.span fun line => (afterFirst? mark line).isNone
      (line :: before ++ after.take 1, after.drop 1)

/-- A block of HTML. One that starts with a tag of no special kind needs that tag to fill its line,
and cannot interrupt a paragraph. -/
def readHtml (start : HtmlStart) (after : List Char) (r : Reading) : Option Reading :=
  let through (mark : String) : Option Reading :=
    let (lines, rest) := takeThrough mark.toList after r.rest
    some (r.add (.html lines.flatten) rest)
  let toBlankLine : Option Reading :=
    let (lines, rest) := r.rest.span fun line => !isBlankLine line
    some (r.add (.html lines.flatten) rest)
  let fillsLine (cs : Option (List Char)) : Bool :=
    (cs.map fun cs => cs.all fun c => isSpace c || c == '\n').getD false
  match start with
  | .comment => through "-->"
  | .instruction => through "?>"
  | .cdata => through "]]>"
  | .declaration => through ">"
  | .tag closing name =>
    let name := String.ofList (name.toList.map Char.toLower)
    let first := after.takeWhile (· ≠ '\n')
    if !closing && name ∈ verbatimTags then through ("</" ++ name ++ ">")
    else if name ∈ blockTags then toBlankLine
    else if r.inParagraph then some r.addLine
    else
      let attributes := if closing then first else afterAttributes first.length first
      if fillsLine (after? ">" (attributes.dropWhile isSpace)) then toBlankLine else none

/-- A link definition, which cannot interrupt a paragraph. -/
def readDefinition (label rest : List Char) (r : Reading) : Option Reading :=
  if r.inParagraph then some r.addLine
  else
    let key := labelKey label
    if key = "" then none
    else
      (definedTarget? rest).map fun (target, after) =>
        let source := r.rest.flatten
        let raw := source.take (source.length - after.length)
        let r := { r with refs := r.refs.addTarget key target }
        r.add (.definition raw label) (linesOf after)

/-- Whether a line continues a footnote that is indented by `indent`: one to four blanks more. -/
def continuesNote (indent : Nat) (line : Line) : Bool :=
  indent < indentOf line && indentOf line ≤ indent + 4 && isEnded line

/-- The lines of a footnote after its first one. -/
def spanNote (indent : Nat) (lines : List Line) : List Line × List Line :=
  lines.span fun line => continuesNote indent line || line == ['\n']

/-- The text of a footnote and the lines after it. -/
def noteText (indent : Nat) (rest : List Char) : List Char × List Line :=
  match linesOf rest with
  | [] => ([], [])
  | first :: lines =>
    let (more, lines) := spanNote indent lines
    (first ++ more.flatten, lines)

/-- A text without the blanks that start its lines, where there are at least `count` of them. -/
def dropMargin (count : Nat) (cs : List Char) : List Char :=
  ((linesOf cs).map fun line =>
    if count ≤ indentOf line then line.dropWhile (· == ' ') else line).flatten

/-- A table with outer pipes. -/
def readTable (t : TableLines) (r : Reading) : Option Reading :=
  (pipedCells? t).map fun cells =>
    r.add (.table cells.header cells.rows) (t.rest.dropWhile (· == ['\n']))

/-- A table without outer pipes. -/
def readOpenTable (t : TableLines) (r : Reading) : Option Reading :=
  (openCells? t).map fun cells =>
    r.add (.table cells.header cells.rows) (t.rest.dropWhile (· == ['\n']))

/-- The lines after those that are blank. -/
def readBlank (r : Reading) : Reading :=
  r.add .blank (r.rest.dropWhile isBlankLine)

/-! ## Quotes and lists -/

/-- Whether a line has the mark of a quote. -/
def isQuoted (line : Line) : Bool :=
  (quote? 3 line).isSome

/-- A line without one blank at its start. -/
def dropOneBlank : Line → Line
  | ' ' :: rest => rest
  | line => line

/-- A quoted line without its mark and one blank after it. -/
def unquote (line : Line) : Line :=
  dropOneBlank (tabToStop 3 ((line.dropWhile (· == ' ')).drop 1))

/-- Whether the last of some lines is blank. -/
def endsBlank (lines : List Line) : Bool :=
  match lines.getLast? with
  | some line => line.all fun c => isSpace c || c == '\n'
  | none => false

/-- The text after the marker of an item with the blanks after the marker left out, and the number
of blanks by which the lines of the item are indented. -/
def Marker.content (m : Marker) : List Char × Nat :=
  let width := m.indent + m.mark.length
  let text := tabToBlanks (tabToStop 3 m.tail)
  let blanks := (text.takeWhile Text.isBlank).length
  if blanks = text.length then ([], width + 1)
  else
    let drop := if startsWithBlanks 5 text then 1 else blanks
    (text.drop drop ++ ['\n'], width + drop)

/-- The width of a marker with the blanks before it. -/
def Marker.width (m : Marker) : Nat :=
  m.indent + m.mark.length

/-- The number of an ordered marker. -/
def Marker.number (m : Marker) : Nat :=
  Text.numberOfDigits (m.mark.dropLast.map fun c => (Text.digitValue? c).getD 0)

/-- A gathered line of an item without its indentation. -/
def itemLine (width : Nat) (line : Line) : Line :=
  if startsWithBlanks width line then tabToBlanks (line.drop width) else line

/-- Why the lines of an item end. -/
inductive ItemEnd where
  | next (m : Marker)
  | over
  /-- A block was read; the list goes behind the elements before it, which are so many. -/
  | broken (index : Nat)

mutual

/-- Read all the lines. -/
def readLines : Nat → Scope → Reading → Reading
  | 0, _, r => r
  | fuel + 1, scope, r =>
    if r.rest.isEmpty then r
    else
      match opener? scope r.rest with
      | some o => readLines fuel scope ((readBlock fuel scope o r).getD r.addLine)
      | none => readLines fuel scope r.addLine

/-- Read the block that the next line opens, if it can stand there. -/
def readBlock : Nat → Scope → Opener → Reading → Option Reading
  | 0, _, _, _ => none
  | fuel + 1, scope, o, r =>
    match o with
    | .fence f => readFence f r
    | .indented => some (readIndented r)
    | .heading level text => some (r.add (.heading level text) (r.rest.drop 1))
    | .underline mark =>
      match r.done, r.rest with
      | .paragraph text :: done, _ :: rest =>
        some { r with done := .heading (if mark == '=' then 1 else 2) text :: done, rest }
      | _, line :: rest =>
        if isRule 3 line then some (r.add .rule rest)
        else (marker? 3 line).map fun m => readList fuel scope m r
      | _, [] => none
    | .rule => some (r.add .rule (r.rest.drop 1))
    | .quote text => some (readQuote fuel scope text r)
    | .list m => some (readList fuel scope m r)
    | .footnote indent key rest => some (readNote fuel scope indent key rest r)
    | .definition label rest => readDefinition label rest r
    | .html start after => readHtml start after r
    | .blank => some (readBlank r)
    | .table t => readTable t r
    | .openTable t => readOpenTable t r

/-- Read a footnote. Text of one line is a paragraph; further lines make a document. -/
def readNote : Nat → Scope → Nat → List Char → List Char → Reading → Reading
  | 0, _, _, _, _, r => r
  | fuel + 1, scope, indent, keyText, source, r =>
    let (text, rest) := noteText indent source
    let key := labelKey keyText
    let r := { r with refs := r.refs.addNote key text, rest }
    let text := (r.refs.notes.lookup key).getD text
    let margin := ((linesOf text).drop 1).find? fun line => !(body line).isEmpty
    match margin with
    | none => r.add (.footnote key [.paragraph (Text.trim text)]) rest
    | some line =>
      let count := ((body line).takeWhile Text.isBlank).length
      let inner := Text.trim (dropMargin count text)
      let child := readLines fuel scope.note (.start (linesOf inner) r.refs)
      { r with refs := child.refs }.add (.footnote key child.done.reverse) rest

/-- Read a quote whose first line has the given text. -/
def readQuote : Nat → Scope → List Char → Reading → Reading
  | 0, _, _, r => r
  | fuel + 1, scope, text, r =>
    let first := dropOneBlank (tabToStop 3 (text ++ ['\n']))
    let r := { r with rest := r.rest.drop 1 }
    let strict := isBlankLine first || isIndented first || (fence? 3 first).isSome
    let (lines, broken, r) : List Line × Bool × Reading :=
      if strict then
        let (quoted, rest) := r.rest.span isQuoted
        (first :: quoted.map unquote, false, { r with rest })
      else gatherQuote fuel scope false [first] r
    let source := (lines.map tabToBlanks).flatten
    let child := readLines fuel scope.inner (.start (linesOf source) r.refs)
    let r := { r with refs := child.refs }
    let element := Element.quote child.done.reverse
    if broken then r.insertAt (r.done.length - 1) element else r.add element r.rest

/-- Gather the lines of a quote after its first one, the newest first in `taken`, and tell whether a
block ended it. A lazy line continues a paragraph and does not underline it. -/
def gatherQuote : Nat → Scope → Bool → List Line → Reading → List Line × Bool × Reading
  | 0, _, _, taken, r => (taken.reverse, false, r)
  | fuel + 1, scope, blankBefore, taken, r =>
    match r.rest with
    | [] => (taken.reverse, false, r)
    | line :: rest =>
      let (quoted, after) := (line :: rest).span isQuoted
      if !quoted.isEmpty then
        let lines := quoted.map unquote
        gatherQuote fuel scope (endsBlank lines) (lines.reverse ++ taken) { r with rest := after }
      else if blankBefore then (taken.reverse, false, r)
      else
        match (quoteBreaker? line).bind fun o => readBlock fuel scope o r with
        | some r => (taken.reverse, true, r)
        | none =>
          let source := (taken.reverse.map tabToBlanks).flatten
          let text := (underline? line).isSome &&
            (readLines fuel scope.inner (.start (linesOf source) r.refs)).inParagraph
          let lazily := if text then List.replicate 4 ' ' ++ line else tabToStop 3 line
          gatherQuote fuel scope blankBefore (lazily :: taken) { r with rest }

/-- Read a list whose first marker has been recognised. A list without text, or one that is
numbered from elsewhere than one, cannot interrupt a paragraph. -/
def readList : Nat → Scope → Marker → Reading → Reading
  | 0, _, _, r => r
  | fuel + 1, scope, m, r =>
    let ordered := 1 < m.mark.length
    let start := m.number
    if r.inParagraph && (m.tail.all Text.isBlank || (ordered && start ≠ 1)) then r.addLine
    else
      let (items, index, r) := readItems fuel scope m { r with rest := r.rest.drop 1 }
      let element := Element.list scope.depth ordered
        (if ordered && start ≠ 1 then some start else none) items
      match index with
      | some index => r.insertAt index element
      | none => r.add element r.rest

/-- Read the items of a list from one on whose marker has been read, and tell where the list goes
if a block ended it. -/
def readItems : Nat → Scope → Marker → Reading → List (List Element) × Option Nat × Reading
  | 0, _, _, r => ([], none, r)
  | fuel + 1, scope, m, r =>
    let (first, width) := m.content
    let (lines, stop, r) := gatherItem fuel scope m width first.isEmpty false [] r
    let source := dropBlankEnd (first ++ (lines.map (itemLine width)).flatten)
    let child := readLines fuel scope.inner (.start (linesOf source) r.refs)
    let r := { r with refs := child.refs }
    let item := child.done.reverse
    match stop with
    | .next m' =>
      let (items, index, r) := readItems fuel scope m' r
      (item :: items, index, r)
    | .over => ([item], none, r)
    | .broken index => ([item], some index, r)

/-- Gather the lines of an item after its first one, the newest first in `taken`. -/
def gatherItem : Nat → Scope → Marker → Nat → Bool → Bool → List Line → Reading →
    List Line × ItemEnd × Reading
  | 0, _, _, _, _, _, taken, r => (taken.reverse, .over, r)
  | fuel + 1, scope, m, width, bare, blankBefore, taken, r =>
    match r.rest with
    | [] => (taken.reverse, .over, r)
    | line :: rest =>
      if isBlankLine line then
        gatherItem fuel scope m width bare true (['\n'] :: taken) { r with rest }
      else
        let expanded := tabToStop 4 line
        if startsWithBlanks width expanded then
          if blankBefore && bare && taken.all (· == ['\n']) then (taken.reverse, .over, r)
          else gatherItem fuel scope m width bare false (expanded :: taken) { r with rest }
        else
          let lazily (r : Reading) : List Line × ItemEnd × Reading :=
            if blankBefore then (taken.reverse, .over, r)
            else gatherItem fuel scope m width bare false (expanded :: taken) { r with rest }
          match itemBreaker? (m.mark.getLast?.getD '-') (min 3 m.width) line with
          | some (.item m') => (taken.reverse, .next m', { r with rest })
          | some .list => (taken.reverse, .over, r)
          | some (.opener o) =>
            match readBlock fuel scope o r with
            | some r' => (taken.reverse, .broken r.done.length, r')
            | none => lazily r
          | none => lazily r

end

/-- **The block structure of a document** and its definitions. -/
def outline (source : List Char) : List Element × References :=
  let lines := linesOf source
  let bound := 100 * (source.length + 10)
  let r := readLines bound ⟨0, true, true⟩ (.start lines .none)
  (r.done.reverse, r.refs)

end PageSync.Markdown
