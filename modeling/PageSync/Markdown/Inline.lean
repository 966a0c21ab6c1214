import PageSync.Markdown.Autolink
import PageSync.Markdown.Element
import PageSync.Markdown.Emphasis
import PageSync.Markdown.Opener

/-!
# Markdown/Inline — reading the text of a block

A text is read from left to right. Brackets wait until they are closed: where a target follows, what
stands between them becomes a link or an image, otherwise they stay text. A link holds no further
link. Runs of emphasis marks wait until the text, or the brackets around them, end.
-/

namespace PageSync.Markdown

/-- A bracket that has been opened, and the text after it. A bracket that can no longer become a
link is not active. -/
structure Bracket where
  image : Bool
  active : Bool
  after : List Char

/-- A part of a text that has been read. -/
inductive Item where
  | piece (p : Piece)
  /-- An address that stands for itself; inside a link it is the text `literal`. -/
  | address (literal : List Char) (link : Token)
  | bracket (b : Bracket)

/-- A text being read: its items, the newest first; plain text behind them, reversed; whether the
text is inside an anchor of HTML; and the keys of the footnotes referred to, in order. -/
structure Scan where
  items : List Item
  text : List Char
  inAnchor : Bool
  used : List String

namespace Scan

/-- Start reading. -/
def start (inAnchor : Bool) (used : List String) : Scan :=
  ⟨[], [], inAnchor, used⟩

/-- Add plain text. -/
def addText (s : Scan) (cs : List Char) : Scan :=
  { s with text := cs.reverse ++ s.text }

/-- Make the plain text at the end an item. -/
def flush (s : Scan) : Scan :=
  if s.text.isEmpty then s
  else
    let t := Token.text (String.ofList s.text.reverse)
    { s with items := .piece (.token t) :: s.items, text := [] }

/-- Add an item. -/
def add (s : Scan) (item : Item) : Scan :=
  let s := s.flush
  { s with items := item :: s.items }

/-- Add a token. -/
def addToken (s : Scan) (t : Token) : Scan :=
  s.add (.piece (.token t))

/-- Whether a bracket is open. -/
def inBrackets (s : Scan) : Bool :=
  s.items.any fun
    | .bracket _ => true
    | _ => false

end Scan

/-- An item as a piece. -/
def Item.asPiece (inLink : Bool) : Item → Piece
  | .piece p => p
  | .address literal link => .token (if inLink then .text (String.ofList literal) else link)
  | .bracket b => .token (.text (if b.image then "![" else "["))

/-- The tokens of items, the newest of which comes first. -/
def tokensOf (inLink : Bool) (items : List Item) : List Token :=
  resolveEmphasis (items.reverse.map (Item.asPiece inLink))

/-- A link whose text is an address. -/
def addressLink (url : String) (text : List Char) : Token :=
  .branchWith "link" [("url", .str url)] [.text (String.ofList text)]

/-! ## Code and breaks -/

/-- The code up to a run of as many backticks as opened it, and what follows. -/
def codeFrom (size : Nat) : Nat → List Char → List Char → Option (List Char × List Char)
  | 0, _, _ => none
  | _, _, [] => none
  | fuel + 1, acc, c :: rest =>
    if c = '\x60' then
      let (n, after) := markRun '\x60' (c :: rest)
      if n = size then some (acc.reverse, after)
      else codeFrom size fuel (List.replicate n '\x60' ++ acc) after
    else codeFrom size fuel (c :: acc) rest

/-- The text of a code span: line ends are blanks, and a blank at both ends is left out. -/
def codeText (cs : List Char) : String :=
  let cs := cs.map fun c => if c = '\n' then ' ' else c
  let padded := cs.head? = some ' ' && cs.getLast? = some ' ' && !cs.all Text.isBlank
  String.ofList (if padded then (cs.drop 1).dropLast else cs)

/-- Read a run of backticks. -/
def readCode (cs : List Char) (s : Scan) : Scan × List Char :=
  let (size, rest) := markRun '\x60' cs
  match codeFrom size rest.length [] rest with
  | some (code, rest) => (s.addToken (.leaf "codespan" (codeText code)), rest)
  | none => (s.addText (List.replicate size '\x60'), rest)

/-- Read blanks that may end a line: two or more of them break it. -/
def readBlanks (cs : List Char) (s : Scan) : Scan × List Char :=
  let (count, rest) := markRun ' ' cs
  match rest with
  | '\n' :: rest =>
    (s.addToken (.bare (if 2 ≤ count then "linebreak" else "softbreak")), Text.trimStart rest)
  | rest => (s.addText (List.replicate count ' '), rest)

/-! ## Brackets -/

/-- The items after the last open bracket, that bracket, and the items before it. -/
def splitBracket : List Item → Option (List Item × Bracket × List Item)
  | [] => none
  | .bracket b :: rest => some ([], b, rest)
  | item :: rest => (splitBracket rest).map fun (inner, b, before) => (item :: inner, b, before)

/-- The attributes of a link with its target in place. -/
def Target.inlineAttrs (t : Target) : Fields :=
  ("url", .str t.url) :: (t.title.map fun title => ("title", Json.str title)).toList

/-- The attributes of a link with its target in a definition. -/
def Target.labelledAttrs (t : Target) : Fields :=
  [("url", .str t.url), ("title", .ofString? t.title)]

/-- The attributes of the target that a label names. -/
def labelled? (refs : References) (label : List Char) : Option Fields :=
  (refs.targets.lookup (labelKey label)).map Target.labelledAttrs

/-- The attributes of the target that follows a closed bracket, and the rest of the text. Without a
target in place the label in the next brackets counts, or else the bracketed text itself. -/
def targetAfter? (refs : References) (own : Option (List Char)) (rest : List Char) :
    Option (Fields × List Char) :=
  let byOwn (rest : List Char) := (own.bind (labelled? refs)).map (·, rest)
  match rest with
  | '(' :: cs =>
    match inlineTarget? cs with
    | some (target, rest) => some (target.inlineAttrs, rest)
    | none => byOwn rest
  | '[' :: cs =>
    match label? cs with
    | some ([], after) => byOwn after
    | some (label, after) => (labelled? refs label).map (·, after)
    | none => byOwn rest
  | _ => byOwn rest

/-- An item after a link has been made around or behind it: a bracket can no longer become a
link. -/
def Item.deactivate : Item → Item
  | .bracket b => .bracket { b with active := b.active && b.image }
  | item => item

/-- Read a closing bracket, after which `rest` follows. -/
def closeBracket (refs : References) (rest : List Char) (s : Scan) : Scan × List Char :=
  let s := s.flush
  match splitBracket s.items with
  | none => (s.addText [']'], rest)
  | some (inner, b, before) =>
    let own := (label? b.after).bind fun (label, after) =>
      if after.length = rest.length then some label else none
    let children := tokensOf (!b.image) inner
    let becomesLink := b.active && nestingOf children < nestingLimit
    match (if becomesLink then targetAfter? refs own rest else none) with
    | some (attrs, rest) =>
      let name := if b.image then "image" else "link"
      let token := Token.branchWith name attrs children
      let before := if b.image then before else before.map Item.deactivate
      ({ s with items := .piece (.token token) :: before }, rest)
    | none =>
      let literal := Item.piece (Item.asPiece false (.bracket b))
      ({ s with items := inner ++ literal :: before, text := [']'] }, rest)

/-- Read a reference to a footnote; a key that is not defined is text. -/
def readReference (refs : References) (key rest : List Char) (s : Scan) : Scan × List Char :=
  let name := labelKey key
  if (refs.notes.lookup name).isSome then
    let used := if s.used.contains name then s.used else s.used ++ [name]
    let attrs : Fields := [("index", .int (used.idxOf name + 1 : Nat))]
    ({ s with used }.addToken (.mk (some "footnote_ref") (some name) (some attrs) none), rest)
  else (s.addText ("[^".toList ++ key ++ [']']), rest)

/-- Whether `![` opens an image: not where it stands before a footnote that no target follows. -/
def opensImage (cs : List Char) : Bool :=
  match footnoteKey? cs with
  | some (_, c :: _) => c = '(' || c = '['
  | some (_, []) => false
  | none => true

/-! ## Angle brackets -/

/-- Whether a tag opens or closes an anchor. -/
def anchorChange? (html : List Char) : Option Bool :=
  let starts (start : String) := start.toList.isPrefixOf html
  if ["<a ", "<a>", "<A ", "<A>"].any starts then some true
  else if ["</a ", "</a>", "</A ", "</A>"].any starts then some false
  else none

/-- Read an address or a piece of HTML in angle brackets. -/
def readAngle (cs rest : List Char) (s : Scan) : Scan × List Char :=
  let addAddress (url : List Char) (text : List Char) (rest : List Char) : Scan × List Char :=
    let literal := '<' :: text ++ ['>']
    if s.inAnchor then (s.addText literal, rest)
    else (s.add (.address literal (addressLink (address url) text)), rest)
  match angleAddress? rest with
  | some (text, rest) => addAddress text text rest
  | none =>
    match angleMail? rest with
    | some (text, rest) => addAddress ("mailto:".toList ++ text) text rest
    | none =>
      match afterHtml? cs with
      | some after =>
        let html := cs.take (cs.length - after.length)
        let s := s.addToken (.leaf "inline_html" (String.ofList html))
        ({ s with inAnchor := (anchorChange? html).getD s.inAnchor }, after)
      | none => (s.addText ['<'], rest)

/-! ## Strikethrough -/

/-- Whether a text starts with one tilde alone. -/
def startsWithLoneTilde : List Char → Bool
  | '~' :: '~' :: _ => false
  | '~' :: _ => true
  | _ => false

/-- The struck text up to the marks that end it, and what follows them. The character before the
marks is not blank and no tilde, unless it is escaped; a lone tilde may not follow. -/
def struckFrom (acc : List Char) : List Char → Option (List Char × List Char)
  | [] => none
  | c :: cs =>
    match c, cs with
    | '\\', '~' :: '~' :: '~' :: rest =>
      if startsWithLoneTilde rest then struckFrom (c :: acc) cs
      else some (('~' :: c :: acc).reverse, rest)
    | _, '~' :: '~' :: rest =>
      if Text.isBlank c || c = '~' || startsWithLoneTilde rest then struckFrom (c :: acc) cs
      else some ((c :: acc).reverse, rest)
    | _, _ => struckFrom (c :: acc) cs

/-- The struck text at the start of a text, and what follows it. -/
def struck? : List Char → Option (List Char × List Char)
  | '~' :: '~' :: c :: rest =>
    if Text.isBlank c || c = '~' then none else struckFrom [] (c :: rest)
  | _ => none

/-! ## Reading -/

/-- Read what a character starts that does not hold further text. The character before it decides
what a run of emphasis marks may do. -/
def readSpecial (refs : References) (before c : Char) (rest : List Char) (s : Scan) :
    Scan × List Char :=
  if c = '\\' then
    match rest with
    | '\n' :: after => (s.addToken (.bare "linebreak"), Text.trimStart after)
    | d :: after => if isMark d then (s.addText [d], after) else (s.addText [c], rest)
    | [] => (s.addText [c], rest)
  else if c = '\x60' then readCode (c :: rest) s
  else if c = '*' || c = '_' then
    let (size, after) := markRun c (c :: rest)
    (s.add (.piece (.run (.between c size before (after.head?.getD ' ')))), after)
  else if c = '!' then
    match rest with
    | '[' :: after =>
      if opensImage rest then (s.add (.bracket ⟨true, true, after⟩), after)
      else (s.addText [c], rest)
    | _ => (s.addText [c], rest)
  else if c = '[' then
    match footnoteKey? (c :: rest) with
    | some (key, after) => readReference refs key after s
    | none =>
      if s.inAnchor then (s.addText [c], rest) else (s.add (.bracket ⟨false, true, rest⟩), rest)
  else if c = ']' then closeBracket refs rest s
  else if c = '<' then readAngle (c :: rest) rest s
  else if c = 'h' then
    match bareUrl? s.inBrackets (c :: rest) with
    | some (url, after) =>
      if s.inAnchor then (s.addText url, after)
      else (s.add (.address url (addressLink (address url) url)), after)
    | none => (s.addText [c], rest)
  else if c = ' ' || c = '\n' then readBlanks (c :: rest) s
  else (s.addText [c], rest)

/-- Whether a character can start something else than text, by what follows it. -/
def isSpecial (c : Char) (rest : List Char) : Bool :=
  if c = ' ' then rest.head? = some ' ' || rest.head? = some '\n'
  else if c = 'h' then "ttp".toList.isPrefixOf rest
  else if c = '~' then rest.head? = some '~'
  else "\\\x60*_![]<\n".toList.contains c

/-- The last character that was read. -/
def lastRead (cs rest : List Char) : Char :=
  ((cs.drop (cs.length - rest.length - 1)).head?).getD ' '

/-- Read a text; `fuel` bounds the number of steps. -/
def scan (refs : References) : Nat → Char → List Char → Scan → Scan
  | 0, _, cs, s => s.addText cs
  | _, _, [], s => s
  | fuel + 1, before, c :: rest, s =>
    if !isSpecial c rest then scan refs fuel c rest (s.addText [c])
    else
      match struck? (c :: rest) with
      | some (text, after) =>
        let inner := (scan refs fuel ' ' text (.start s.inAnchor s.used)).flush
        let token := Token.branch "strikethrough" (tokensOf false inner.items)
        scan refs fuel '~' after ({ s with used := inner.used }.addToken token)
      | none =>
        let (s, after) := readSpecial refs before c rest s
        scan refs fuel (lastRead (c :: rest) after) after s

/-- **The tokens of a text**, and the keys of the footnotes referred to so far. -/
def inlineTokens (refs : References) (used : List String) (cs : List Char) :
    List Token × List String :=
  if cs.isEmpty then ([.text ""], used)
  else
    let s := (scan refs (cs.length + 1) ' ' cs (.start false used)).flush
    (tokensOf false s.items, s.used)

end PageSync.Markdown
