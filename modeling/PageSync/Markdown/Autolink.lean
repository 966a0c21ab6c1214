import PageSync.Markdown.Line

/-!
# Markdown/Autolink — addresses that stand for themselves

An address in angle brackets, a mail address in angle brackets, and a web address in the open.
-/

namespace PageSync.Markdown

/-- A character of the scheme of an address. -/
def isSchemeChar (c : Char) : Bool :=
  c.isAlphanum || c == '.' || c == '+' || c == '-'

/-- A character of an address in angle brackets. -/
def isAngleChar (c : Char) : Bool :=
  c != '<' && c != '>' && c.toNat > 0x20

/-- The address in angle brackets, the first of which has been read, and what follows. -/
def angleAddress? (cs : List Char) : Option (List Char × List Char) :=
  let (scheme, rest) := cs.span isSchemeChar
  let (path, rest) := rest.span isAngleChar
  match scheme, path, rest with
  | c :: more, ':' :: _, '>' :: rest =>
    if c.isAlpha && 1 ≤ more.length && more.length ≤ 31 then some (scheme ++ path, rest) else none
  | _, _, _ => none

/-- A character before the at sign of a mail address. -/
def isMailboxChar (c : Char) : Bool :=
  c.isAlphanum || ".!#$%&'*+/=?^_\x60\x7b|\x7d~-".toList.contains c

/-- Whether a text is one part of the name of a host. -/
def isHostPart (cs : List Char) : Bool :=
  match cs with
  | [] => false
  | c :: _ =>
    c.isAlphanum && (cs.getLast?.map Char.isAlphanum).getD false && cs.length ≤ 63 &&
      cs.all fun d => d.isAlphanum || d == '-'

/-- The parts of a text between points. -/
def pointParts (cs : List Char) : List (List Char) :=
  cs.splitOn '.'

/-- The mail address in angle brackets, the first of which has been read, and what follows. -/
def angleMail? (cs : List Char) : Option (List Char × List Char) :=
  let (mailbox, rest) := cs.span isMailboxChar
  match mailbox, rest with
  | _ :: _, '@' :: rest =>
    match rest.span fun c => c.isAlphanum || c == '-' || c == '.' with
    | (host, '>' :: rest) =>
      if (pointParts host).all isHostPart then some (mailbox ++ '@' :: host, rest) else none
    | _ => none
  | _, _ => none

/-- A character that may end a web address in the open. -/
def isUrlEnd (c : Char) : Bool :=
  !(Text.isBlank c || "<.,:;\"')]".toList.contains c)

/-- A web address without what cannot end it; two characters have to follow the scheme. -/
def trimUrl (cs : List Char) : Option (List Char) :=
  match (cs.reverse.dropWhile fun c => !isUrlEnd c).reverse with
  | a :: b :: rest => some (a :: b :: rest)
  | _ => none

/-- The web address at the start of a text and what follows it. Inside brackets it ends before
the closing one. -/
def bareUrl? (inBrackets : Bool) (cs : List Char) : Option (List Char × List Char) :=
  let from? (scheme : List Char) : Option (List Char × List Char) :=
    if !scheme.isPrefixOf cs then none
    else
      let path := (cs.drop scheme.length).takeWhile fun c =>
        !Text.isBlank c && c != '<' && !(inBrackets && c == ']')
      (trimUrl path).map fun path =>
        (scheme ++ path, cs.drop (scheme.length + path.length))
  match from? "https://".toList with
  | some found => some found
  | none => from? "http://".toList

end PageSync.Markdown
