import PageSync.Text.Percent
import PageSync.Url.Ip
import PageSync.Url.Punycode

/-!
# Url/Reference — the addresses of requests

An address is split into its parts; each part is brought into the form in which it is sent, or the
address is refused. What a part may not hold is written by its bytes, an escape that stands there
already stays. `Reference.ofParts?` is the only way to a reference.
-/

namespace PageSync.Url

/-- The parts of an address as they are written. -/
structure Parts where
  scheme : List Char
  authority : List Char
  path : List Char
  query : Option (List Char)
  fragment : Option (List Char)

/-- An address in the form in which it is sent. -/
structure Reference where
  scheme : String
  userinfo : String
  host : String
  port : Option Int
  path : String
  query : Option String
  fragment : Option String
  deriving DecidableEq, Repr

/-! ## Splitting -/

/-- The scheme in front of the first colon; it may be empty, and then nothing stands there. -/
def schemeOf (cs : List Char) : List Char × List Char :=
  let isChar (c : Char) := c.isAlphanum || c == '+' || c == '.' || c == '-'
  match cs with
  | ':' :: rest => ([], rest)
  | c :: rest =>
    match rest.span isChar with
    | (more, ':' :: rest) => if c.isAlpha then (c :: more, rest) else ([], cs)
    | _ => ([], cs)
  | [] => ([], [])

/-- What follows a mark in front of a text. -/
def afterMark (mark : Char) : List Char → Option (List Char)
  | c :: cs => if c = mark then some cs else none
  | [] => none

/-- The parts of an address. -/
def Parts.of (cs : List Char) : Parts :=
  let (scheme, rest) := schemeOf cs
  let (authority, rest) := match rest with
    | '/' :: '/' :: rest => rest.span fun c => c != '/' && c != '?' && c != '#'
    | rest => ([], rest)
  let (path, rest) := rest.span fun c => c != '?' && c != '#'
  let (query, rest) := match afterMark '?' rest with
    | some rest =>
      let (query, rest) := rest.span (· != '#')
      (some query, rest)
    | none => (none, rest)
  ⟨scheme, authority, path, query, afterMark '#' rest⟩

/-- The user in front of the last at sign of an authority, and what follows. -/
def splitUser (cs : List Char) : List Char × List Char :=
  let host := (cs.reverse.takeWhile (· != '@')).reverse
  (cs.take (cs.length - host.length - 1), host)

/-- The host of an authority without its user, and the port behind it. A host in brackets ends with
the last closing one. -/
def splitPort (cs : List Char) : List Char × List Char :=
  let brackets := (cs.reverse.dropWhile (· != ']')).reverse
  let (host, rest) :=
    if cs.head? = some '[' && !brackets.isEmpty then (brackets, cs.drop brackets.length)
    else cs.span (· != ':')
  (host, (afterMark ':' rest).getD rest)

/-! ## The forms of the parts -/

/-- Whether a text starts with an escape. -/
def startsEscape : List Char → Bool
  | '%' :: a :: b :: _ => isHexDigit a && isHexDigit b
  | _ => false

/-- Write what is not kept by its bytes; an escape stays. -/
def quoteKeeping (keep : Char → Bool) : List Char → List Char
  | [] => []
  | c :: cs =>
    (if startsEscape (c :: cs) || Text.isUnreserved c || keep c then [c] else Text.percentChar c) ++
      quoteKeeping keep cs

/-- Whether a character is printable ASCII and none of the given ones. -/
def asciiBut (marks : String) (c : Char) : Bool :=
  0x20 ≤ c.toNat && c.toNat < 0x7F && !marks.toList.contains c

/-- What a fragment keeps. -/
def keptInFragment : Char → Bool :=
  asciiBut " \"<>\x60"

/-- What a query keeps. -/
def keptInQuery : Char → Bool :=
  asciiBut " \"#<>"

/-- What a path keeps. -/
def keptInPath : Char → Bool :=
  asciiBut " \"#<>?\x60\x7b\x7d"

/-- What the user keeps. -/
def keptInUser : Char → Bool :=
  asciiBut " \"#<>?\x60\x7b\x7d/;=@[\\]^|"

/-- What the name of a host keeps. -/
def keptInHost (c : Char) : Bool :=
  "!$&'()*+,;=\"\x60\x7b\x7d%|\\".toList.contains c

/-- Whether a text is a number and then so many further numbers, each after one character. -/
def areNumbers : Nat → List Char → Bool
  | 0, cs => !cs.isEmpty && cs.all Char.isDigit
  | n + 1, cs =>
    (List.range cs.length).any fun i =>
      0 < i && (cs.take i).all Char.isDigit && areNumbers n (cs.drop (i + 1))

/-- Whether a host looks like an address of version 4, well written or not. -/
def looksLikeIpv4 (cs : List Char) : Bool :=
  areNumbers 3 cs

/-- The form of a host. -/
def hostForm? (host : List Char) : Option (List Char) :=
  let lowered := host.flatMap Text.lowerChar
  if host.isEmpty then some []
  else if looksLikeIpv4 host then if isIpv4 host then some host else none
  else if host.head? = some '[' && host.getLast? = some ']' then
    let inner := (host.drop 1).dropLast
    if isIpv6 inner then some inner else none
  else if host.all fun c => c.toNat < 128 then some (quoteKeeping keptInHost lowered)
  else asciiHost? lowered

/-- The ports that go without saying. -/
def defaultPorts : List (String × Int) :=
  [("ftp", 21), ("http", 80), ("https", 443), ("ws", 80), ("wss", 443)]

/-- The form of a port under a scheme: none where it goes without saying. -/
def portForm? (scheme port : List Char) : Option (Option Int) :=
  if port.isEmpty then some none
  else
    (Text.readInt? (String.ofList port)).map fun n =>
      if defaultPorts.lookup (String.ofList scheme) = some n then none else some n

/-- Whether a path can stand beside a scheme and an authority. -/
def isPathAllowed (hasScheme hasAuthority : Bool) (path : List Char) : Bool :=
  if hasAuthority then path.isEmpty || path.head? = some '/'
  else hasScheme || (!"//".toList.isPrefixOf path && path.head? ≠ some ':')

/-- Segments of a path without those that name the same place or the one above. -/
def dropDots : List (List Char) → List (List Char) → List (List Char)
  | out, [] => out.reverse
  | out, segment :: rest =>
    if segment = ['.'] then dropDots out rest
    else if segment = ['.', '.'] then dropDots (if out = [[]] then out else out.drop 1) rest
    else dropDots (segment :: out) rest

/-- A path without segments that are dots. -/
def withoutDots (path : List Char) : List Char :=
  let segments := path.splitOn '/'
  if segments.contains ['.'] || segments.contains ['.', '.'] then
    ['/'].intercalate (dropDots [] segments)
  else path

/-- The longest address that is read. -/
def lengthLimit : Nat :=
  65536

/-- Whether a text is an address at all: not too long, without control characters. -/
def isReadable (cs : List Char) : Bool :=
  cs.length ≤ lengthLimit && cs.all fun c => 0x20 ≤ c.toNat && c.toNat ≠ 0x7F

namespace Reference

/-- **The reference that parts make**, unless they are refused. -/
def ofParts? (p : Parts) : Option Reference := do
  let (user, rest) := splitUser p.authority
  let (host, port) := splitPort rest
  let hostText ← hostForm? host
  let portNumber ← portForm? p.scheme port
  let userText := quoteKeeping keptInUser user
  let hasScheme := !p.scheme.isEmpty
  let hasAuthority := !userText.isEmpty || !hostText.isEmpty || portNumber.isSome
  if !isPathAllowed hasScheme hasAuthority p.path then none
  else
    let path := if hasScheme || hasAuthority then withoutDots p.path else p.path
    some {
      scheme := String.ofList (p.scheme.map Char.toLower)
      userinfo := String.ofList userText
      host := String.ofList hostText
      port := portNumber
      path := String.ofList (quoteKeeping keptInPath path)
      query := p.query.map fun q => String.ofList (quoteKeeping keptInQuery q)
      fragment := p.fragment.map fun f => String.ofList (quoteKeeping keptInFragment f) }

/-- **Read an address.** -/
def read? (address : String) : Option Reference :=
  let cs := address.toList
  if isReadable cs then ofParts? (.of cs) else none

/-- The authority of a reference. -/
def authority (r : Reference) : List Char :=
  let user := if r.userinfo = "" then [] else r.userinfo.toList ++ ['@']
  let host := r.host.toList
  let host := if host.contains ':' then '[' :: host ++ [']'] else host
  let port := match r.port with
    | some n => ':' :: Json.intText n
    | none => []
  user ++ host ++ port

/-- The parts of a reference. -/
def parts (r : Reference) : Parts :=
  ⟨r.scheme.toList, r.authority, r.path.toList, r.query.map String.toList,
    r.fragment.map String.toList⟩

/-- The path and the query as they are requested. -/
def target (r : Reference) : List Char :=
  (if r.path = "" then ['/'] else r.path.toList) ++
    (match r.query with
      | some q => '?' :: q.toList
      | none => [])

/-- The reference with another path and query. -/
def withTarget? (r : Reference) (target : List Char) : Option Reference :=
  let (path, rest) := target.span (· != '?')
  if isReadable path && isReadable rest then
    ofParts? { r.parts with path, query := afterMark '?' rest }
  else none

/-- The reference with another query. -/
def withQuery? (r : Reference) (query : Option (List Char)) : Option Reference :=
  if isReadable (query.getD []) then ofParts? { r.parts with query } else none

/-- Whether a reference stands on its own. -/
def isAbsolute (r : Reference) : Bool :=
  r.scheme != "" && r.host != ""

/-- **The text of a reference.** -/
def text (r : Reference) : String :=
  let scheme := if r.scheme = "" then [] else r.scheme.toList ++ [':']
  let authority := r.authority
  let authority := if authority.isEmpty then [] else '/' :: '/' :: authority
  let query := match r.query with
    | some q => '?' :: q.toList
    | none => []
  let fragment := match r.fragment with
    | some f => '#' :: f.toList
    | none => []
  String.ofList (scheme ++ authority ++ r.path.toList ++ query ++ fragment)

end Reference

end PageSync.Url
