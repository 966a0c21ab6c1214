import PageSync.Markdown.Line

/-!
# Markdown/Table — pipe tables

A header row, a row of delimiters with as many cells, and rows of cells. With outer pipes every line
starts and ends with a pipe; without them each line holds one. A pipe after a backslash does not
divide cells.
-/

namespace PageSync.Markdown

/-- The lines of a table, its header row and delimiter row apart. -/
structure TableLines where
  header : List Char
  delimiters : List Char
  rows : List Line
  rest : List Line

/-- The rows of cells of a table. -/
structure Cells where
  header : List (List Char)
  rows : List (List (List Char))

/-- The text between the outer pipes of a line. -/
def betweenPipes? (line : Line) : Option (List Char) := do
  match ← afterIndent 3 line with
  | '|' :: cs =>
    match ((body cs).reverse.dropWhile isSpace) with
    | '|' :: inner => some inner.reverse
    | _ => none
  | _ => none

/-- Whether a line has a line end. -/
def isEnded (line : Line) : Bool :=
  line.getLast? = some '\n'

/-- A character of a row of delimiters. -/
def isDelimiterChar (c : Char) : Bool :=
  c == '-' || c == '|' || c == ' ' || c == ':'

/-- The lines of a table with outer pipes at the start of a text. -/
def pipedLines? : List Line → Option TableLines
  | first :: second :: rest => do
    let header ← betweenPipes? first
    let delimiters ← betweenPipes? second
    let inner := delimiters.dropWhile (· == ' ')
    let starts := (inner.head?.map fun c => c == '-' || c == ':').getD false
    if header.isEmpty || !isEnded first || !isEnded second || !starts ||
        !inner.all isDelimiterChar then none
    else
      let (rows, rest) := rest.span fun line => (betweenPipes? line).isSome
      some ⟨header, delimiters, rows, rest⟩
  | _ => none

/-- The lines of a table without outer pipes at the start of a text. -/
def openLines? : List Line → Option TableLines
  | first :: second :: rest => do
    let header ← afterIndent 3 (body first)
    let delimiters ← afterIndent 3 (body second)
    let starts := (header.head?.map fun c => !Text.isBlank c).getD false
    let dashes := delimiters.dropWhile fun c => c == '-' || c == ':'
    let divided := (dashes.dropWhile (· == ' ')).head? = some '|'
    if !starts || !(header.drop 1).contains '|' || dashes.length = delimiters.length || !divided ||
        !dashes.all isDelimiterChar || !isEnded first || !isEnded second then none
    else
      let (rows, rest) := rest.span fun line => line.contains '|'
      some ⟨header, delimiters, rows, rest⟩
  | _ => none

/-- The pieces of a row between its pipes; the last character read tells whether a pipe divides. -/
def splitPipes (before : Char) (acc : List Char) : List Char → List (List Char)
  | [] => [acc.reverse]
  | c :: cs =>
    if c = '|' && before ≠ '\\' then acc.reverse :: splitPipes c [] cs
    else splitPipes c (c :: acc) cs

/-- The cells of a row. -/
def cellsOf (row : List Char) : List (List Char) :=
  (splitPipes ' ' [] (Text.trim row)).map Text.trim

/-- Whether a cell of the row of delimiters is one: empty, or dashes between optional colons. -/
def isDelimiterCell (cell : List Char) : Bool :=
  let inner := if cell.head? = some ':' then cell.drop 1 else cell
  let inner := if inner.getLast? = some ':' then inner.dropLast else inner
  cell.isEmpty || (!inner.isEmpty && inner.all (· == '-'))

/-- The header of a table, if it fits the row of delimiters. -/
def headerCells? (t : TableLines) : Option (List (List Char)) :=
  let header := cellsOf t.header
  let delimiters := cellsOf t.delimiters
  if header.length = delimiters.length && delimiters.all isDelimiterCell then some header else none

/-- The rows of a table that all have as many cells as its header. -/
def rowCells? (width : Nat) (rows : List (List Char)) : Option (List (List (List Char))) :=
  rows.mapM fun row =>
    let cells := cellsOf row
    if cells.length = width then some cells else none

/-- The text between the pipes of a row, which may not be empty. -/
def rowText? (line : Line) : Option (List Char) :=
  match betweenPipes? line with
  | some [] => none
  | text => text

/-- The cells of a table with outer pipes. -/
def pipedCells? (t : TableLines) : Option Cells := do
  let header ← headerCells? t
  let texts ← t.rows.mapM rowText?
  some ⟨header, ← rowCells? header.length texts⟩

/-- The cells of a table without outer pipes. -/
def openCells? (t : TableLines) : Option Cells := do
  let header ← headerCells? t
  some ⟨header, ← rowCells? header.length (t.rows.map body)⟩

end PageSync.Markdown
