import PageSync.Text.Blank

/-!
# Markdown/Line — the lines of a source

A line holds its line end, which only the last line may lack. A tab near the start of a line counts
as the blanks up to the next stop.
-/

namespace PageSync.Markdown

/-- A line of a source with its line end. -/
abbrev Line := List Char

/-- A source in which every line end is a line feed. -/
def plainLineEnds : List Char → List Char
  | '\r' :: '\n' :: rest => '\n' :: plainLineEnds rest
  | '\r' :: rest => '\n' :: plainLineEnds rest
  | c :: rest => c :: plainLineEnds rest
  | [] => []

/-- The lines of a source. -/
def linesOf : List Char → List Line
  | [] => []
  | c :: cs =>
    if c = '\n' then ['\n'] :: linesOf cs
    else
      match linesOf cs with
      | [] => [[c]]
      | line :: lines => (c :: line) :: lines

/-- A line without its line end. -/
def body (line : Line) : List Char :=
  line.takeWhile (· ≠ '\n')

/-- A blank or a tab. -/
def isSpace (c : Char) : Bool :=
  c == ' ' || c == '\t'

/-- A character that may stand on a blank line. -/
def isBlankLineChar (c : Char) : Bool :=
  isSpace c || c.toNat == 11 || c.toNat == 12

/-- Whether a line is blank and has a line end. -/
def isBlankLine (line : Line) : Bool :=
  match line.dropWhile isBlankLineChar with
  | ['\n'] => true
  | _ => false

/-- The number of blanks at the start of a line. -/
def indentOf (line : Line) : Nat :=
  (line.takeWhile (· == ' ')).length

/-- A line without its first blanks, if it has at most `limit` of them. -/
def afterIndent (limit : Nat) (line : Line) : Option (List Char) :=
  if indentOf line ≤ limit then some (line.dropWhile (· == ' ')) else none

/-- A line without up to `count` of its first blanks. -/
def dropIndent : Nat → Line → Line
  | n + 1, ' ' :: rest => dropIndent n rest
  | _, line => line

/-- A line whose tab, after at most three blanks, becomes what `fill` puts there. -/
def replaceTab (fill : Nat → Nat) (line : Line) : Line :=
  let n := indentOf line
  match line.drop n with
  | '\t' :: rest =>
    if n ≤ 3 then List.replicate (n + fill n) ' ' ++ rest else line
  | _ => line

/-- A line whose first tab reaches to the stop at `width`. -/
def tabToStop (width : Nat) (line : Line) : Line :=
  replaceTab (fun n => width - n) line

/-- A line whose first tab becomes four blanks. -/
def tabToBlanks (line : Line) : Line :=
  replaceTab (fun _ => 4) line

/-- Whether a line starts with a number of blanks. -/
def startsWithBlanks (width : Nat) (line : Line) : Bool :=
  (List.replicate width ' ').isPrefixOf line

/-- A text without the blank lines at its end. -/
def dropBlankEnd (cs : List Char) : List Char :=
  let tail := cs.reverse.takeWhile Text.isBlank |>.reverse
  let kept := cs.take (cs.length - tail.length)
  match tail.span (· ≠ '\n') with
  | (before, '\n' :: _ :: _) => kept ++ before ++ ['\n']
  | _ => cs

end PageSync.Markdown
