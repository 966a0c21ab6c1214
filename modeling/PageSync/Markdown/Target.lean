import PageSync.Markdown.Address
import PageSync.Markdown.Line
import PageSync.Text.Case

/-!
# Markdown/Target — labels, destinations and titles

What a link points at: a destination with an optional title, written in place or in a definition
that a label names.
-/

namespace PageSync.Markdown

/-- Where a link points. -/
structure Target where
  url : String
  title : Option String
  deriving DecidableEq, Repr

/-! ## Labels -/

/-- The longest label, an escape counting once. -/
def labelLimit : Nat :=
  500

/-- A label whose bracket has been opened, and the rest of the text after the closing bracket. -/
def labelFrom : Nat → List Char → List Char → Option (List Char × List Char)
  | _, acc, ']' :: rest => some (acc.reverse, rest)
  | room + 1, acc, '\\' :: c :: rest =>
    if c = '\n' then none else labelFrom room (c :: '\\' :: acc) rest
  | room + 1, acc, c :: rest =>
    if c = '[' || c = '\\' then none else labelFrom room (c :: acc) rest
  | _, _, _ => none

/-- A label up to its closing bracket. -/
def label? (cs : List Char) : Option (List Char × List Char) :=
  labelFrom labelLimit [] cs

/-- The key of a label: its words with single blanks between them, without regard to case. -/
def labelKey (label : List Char) : String :=
  Text.foldCase (String.ofList ([' '].intercalate (Text.words label)))

/-! ## Destinations -/

/-- A text without the blanks at its start and at most one line end among them. -/
def skipGap (cs : List Char) : List Char :=
  match cs.dropWhile isSpace with
  | '\n' :: rest => rest.dropWhile isSpace
  | rest => rest

/-- A destination in angle brackets, the first of which has been read. -/
def bracketedFrom (acc : List Char) : List Char → Option (List Char × List Char)
  | '>' :: rest => some (acc.reverse, rest)
  | '\\' :: c :: rest => if c = '\n' then none else bracketedFrom (c :: '\\' :: acc) rest
  | c :: rest => if c = '<' || c = '\n' then none else bracketedFrom (c :: acc) rest
  | [] => none

/-- A bare destination in a link: up to a blank or to the parenthesis that closes the link. -/
def bareFrom (depth : Nat) (acc : List Char) : List Char → Option (List Char × List Char)
  | '\\' :: c :: rest =>
    if isMark c then bareFrom depth (c :: '\\' :: acc) rest
    else if isSpace c || c = '\n' then
      if depth = 0 then some (('\\' :: acc).reverse, c :: rest) else none
    else bareFrom depth (c :: '\\' :: acc) rest
  | '(' :: rest => bareFrom (depth + 1) ('(' :: acc) rest
  | ')' :: rest =>
    match depth with
    | 0 => some (acc.reverse, ')' :: rest)
    | depth + 1 => bareFrom depth (')' :: acc) rest
  | c :: rest =>
    if isSpace c || c = '\n' then if depth = 0 then some (acc.reverse, c :: rest) else none
    else bareFrom depth (c :: acc) rest
  | [] => none

/-- A destination in a link. -/
def destination? (cs : List Char) : Option (List Char × List Char) :=
  match skipGap cs with
  | '<' :: rest => bracketedFrom [] rest
  | rest => bareFrom 0 [] rest

/-- A destination in a definition: in angle brackets or without blanks. -/
def definedDestination? (cs : List Char) : Option (List Char × List Char) :=
  match skipGap cs with
  | '<' :: rest => bracketedFrom [] rest
  | rest =>
    match rest.span fun c => !Text.isBlank c with
    | ([], _) => none
    | (url, rest) => some (url, rest)

/-! ## Titles -/

/-- A title whose opening mark has been read; a title in parentheses holds none itself. -/
def titleFrom (close : Char) (acc : List Char) : List Char → Option (List Char × List Char)
  | '\\' :: c :: rest =>
    if isMark c then titleFrom close (c :: '\\' :: acc) rest
    else titleFrom close ('\\' :: acc) (c :: rest)
  | c :: rest =>
    if c = close then some (acc.reverse, rest)
    else if c = '(' && close = ')' then none
    else titleFrom close (c :: acc) rest
  | [] => none

/-- A title after a destination: blanks, and a text between two marks. -/
def title? (cs : List Char) : Option (List Char × List Char) :=
  let gap (c : Char) := isSpace c || c = '\n'
  match cs with
  | c :: _ =>
    if !gap c then none
    else
      match cs.dropWhile gap with
      | '"' :: rest => titleFrom '"' [] rest
      | '\'' :: rest => titleFrom '\'' [] rest
      | '(' :: rest => titleFrom ')' [] rest
      | _ => none
  | [] => none

/-- A title as it is handed on; an empty one counts as none. -/
def titleText (title : Option (List Char)) : Option String :=
  match title with
  | some (c :: cs) => some (String.ofList (unescape (c :: cs)))
  | _ => none

/-- The target of a link whose parenthesis has been opened. -/
def inlineTarget? (cs : List Char) : Option (Target × List Char) := do
  let (url, rest) ← destination? cs
  let (title, rest) := match title? rest with
    | some (title, rest) => (some title, rest)
    | none => (none, rest)
  match rest.dropWhile Text.isBlank with
  | ')' :: rest => some (⟨escapedAddress url, titleText title⟩, rest)
  | _ => none

/-! ## Definitions -/

/-- The text before the first blank line. -/
def beforeBlankLine (cs : List Char) : List Char :=
  match linesOf cs with
  | [] => []
  | first :: rest => first ++ (rest.takeWhile fun line => !isBlankLine line).flatten

/-- What follows on the next line, when the rest of this one is blank. -/
def lineRest? (cs : List Char) : Option (List Char) :=
  match cs.dropWhile isSpace with
  | '\n' :: rest => some rest
  | _ => none

/-- The title of a definition, alone up to the end of its line, and what follows that line. -/
def definedTitle? (cs : List Char) : Option (List Char × List Char) := do
  let inside := beforeBlankLine cs
  let (title, rest) ← title? inside
  let after ← lineRest? (rest ++ cs.drop inside.length)
  some (title, after)

/-- The target of a definition whose colon has been read, and what follows its last line. -/
def definedTarget? (cs : List Char) : Option (Target × List Char) := do
  let (url, rest) ← definedDestination? cs
  match definedTitle? rest with
  | some (title, after) => some (⟨escapedAddress url, titleText (some title)⟩, after)
  | none => some (⟨escapedAddress url, none⟩, ← lineRest? rest)

end PageSync.Markdown
