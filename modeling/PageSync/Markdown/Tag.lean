import PageSync.Text.Blank

/-!
# Markdown/Tag — tags, comments and other pieces of HTML

The functions here give the text that follows a piece of HTML at the start of a text, and nothing
where no piece starts.
-/

namespace PageSync.Markdown

/-- What follows a fixed text. -/
def after? (start : String) (cs : List Char) : Option (List Char) :=
  if start.toList.isPrefixOf cs then some (cs.drop start.toList.length) else none

/-- What follows the first occurrence of a fixed text. -/
def afterFirst? (mark : List Char) : List Char → Option (List Char)
  | [] => none
  | c :: cs =>
    if mark.isPrefixOf (c :: cs) then some ((c :: cs).drop mark.length) else afterFirst? mark cs

/-! ## Tags -/

/-- The name of a tag and what follows it. -/
def tagName? : List Char → Option (List Char × List Char)
  | c :: rest =>
    if c.isAlpha then some ((c :: rest).span fun d => d.isAlphanum || d == '-') else none
  | [] => none

/-- What follows the name of an attribute. -/
def afterAttributeName? : List Char → Option (List Char)
  | c :: rest =>
    if c.isAlpha || c == '_' || c == ':' then
      some (rest.dropWhile fun d => d.isAlphanum || d == '_' || d == '.' || d == ':' || d == '-')
    else none
  | [] => none

/-- A character of a value without quotes. -/
def isBareValueChar (c : Char) : Bool :=
  !(Text.isBlank c || "!\"'=<>\x60".toList.contains c)

/-- What follows the value of an attribute. -/
def afterValue? : List Char → Option (List Char)
  | '\'' :: rest => afterFirst? ['\''] rest
  | '"' :: rest => afterFirst? ['"'] rest
  | c :: rest => if isBareValueChar c then some (rest.dropWhile isBareValueChar) else none
  | [] => none

/-- What follows an attribute with the blanks before it; its value may be missing. -/
def afterAttribute? : List Char → Option (List Char)
  | [] => none
  | c :: cs =>
    if !Text.isBlank c then none
    else
      (afterAttributeName? (Text.trimStart cs)).map fun rest =>
        match Text.trimStart rest with
        | '=' :: value => (afterValue? (Text.trimStart value)).getD rest
        | _ => rest

/-- What follows the attributes of a tag; `fuel` bounds their number. -/
def afterAttributes : Nat → List Char → List Char
  | 0, cs => cs
  | fuel + 1, cs =>
    match afterAttribute? cs with
    | some rest => afterAttributes fuel rest
    | none => cs

/-- What follows an opening tag whose name has been read. -/
def afterOpenTag? (cs : List Char) : Option (List Char) :=
  match Text.trimStart (afterAttributes cs.length cs) with
  | '/' :: '>' :: rest => some rest
  | '>' :: rest => some rest
  | _ => none

/-! ## Inline HTML -/

/-- What follows the text of a comment whose start has been read. -/
def afterComment? : List Char → Option (List Char)
  | [] => none
  | '-' :: '-' :: '>' :: rest => some rest
  | '-' :: '-' :: _ => none
  | _ :: rest => afterComment? rest

/-- What follows an end mark that does not stand right at the start. -/
def afterSome? (mark : List Char) : List Char → Option (List Char)
  | [] => none
  | _ :: rest => afterFirst? mark rest

/-- What follows a piece of HTML at the start of a text. -/
def afterHtml? (cs : List Char) : Option (List Char) :=
  match cs with
  | '<' :: '/' :: rest =>
    match tagName? rest with
    | some (_, rest) => after? ">" (Text.trimStart rest)
    | none => none
  | '<' :: '?' :: rest => afterSome? "?>".toList rest
  | '<' :: '!' :: rest =>
    match rest with
    | '-' :: '-' :: text =>
      if text.head? = some '>' || "->".toList.isPrefixOf text || "--".toList.isPrefixOf text
      then none else afterComment? text
    | c :: text =>
      if c.isUpper then afterSome? ['>'] text
      else (after? "[CDATA" rest).bind (afterSome? "]]>".toList)
    | [] => none
  | '<' :: rest =>
    match tagName? rest with
    | some (_, rest) => afterOpenTag? rest
    | none => none
  | _ => none

/-! ## Blocks of HTML -/

/-- How a block of HTML starts. -/
inductive HtmlStart where
  | comment
  | instruction
  | declaration
  | cdata
  | tag (closing : Bool) (name : String)
  deriving DecidableEq, Repr

/-- The start of a block of HTML and what follows it. -/
def htmlStart? (cs : List Char) : Option (HtmlStart × List Char) :=
  match cs with
  | '<' :: '/' :: rest =>
    (tagName? rest).map fun (name, rest) => (.tag true (String.ofList name), rest)
  | '<' :: '?' :: rest => some (.instruction, rest)
  | '<' :: '!' :: '-' :: '-' :: rest => some (.comment, rest)
  | '<' :: '!' :: rest =>
    match rest with
    | c :: text =>
      if c.isUpper then some (.declaration, text)
      else (after? "[CDATA[" rest).map fun rest => (.cdata, rest)
    | [] => none
  | '<' :: rest => (tagName? rest).map fun (name, rest) => (.tag false (String.ofList name), rest)
  | _ => none

/-- Tags whose text is taken as it is, up to the tag that closes them. -/
def verbatimTags : List String :=
  ["pre", "script", "style", "textarea"]

/-- Tags that start a block. -/
def blockTags : List String :=
  ["address", "article", "aside", "base", "basefont", "blockquote", "body", "caption", "center",
    "col", "colgroup", "dd", "details", "dialog", "dir", "div", "dl", "dt", "fieldset",
    "figcaption", "figure", "footer", "form", "frame", "frameset", "h1", "h2", "h3", "h4", "h5",
    "h6", "head", "header", "hr", "html", "iframe", "legend", "li", "link", "main", "menu",
    "menuitem", "meta", "nav", "noframes", "ol", "optgroup", "option", "p", "param", "section",
    "source", "summary", "table", "tbody", "td", "tfoot", "th", "thead", "title", "tr", "track",
    "ul"]

end PageSync.Markdown
