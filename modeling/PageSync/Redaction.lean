import PageSync.Json.Printer
import PageSync.Text.Blank
import PageSync.Text.Case
import PageSync.Text.Search

/-!
# Redaction — taking secrets out of what is shown

Values under names that sound like credentials are masked; a bearer credential keeps its scheme.
Everywhere else, base64 data addresses are replaced by their length, and, when the token is known,
the token and bearer credentials are masked inside every string.
-/

namespace PageSync.Redaction

/-! ## Patterns -/

/-- The characters of a media type. -/
def isTypeChar (c : Char) : Bool :=
  c.isAlphanum || c == '_' || c == '.' || c == '+' || c == '-'

/-- The characters of base64 data. -/
def isBase64Char (c : Char) : Bool :=
  c.isAlphanum || c == '+' || c == '/' || c == '='

/-- What is left of a text after a fixed text that it starts with. -/
def after (start : String) (cs : List Char) : Option (List Char) :=
  if start.toList.isPrefixOf cs then some (cs.drop start.length) else none

/-- What is left of a text after the longest run of a class, when the run is not empty. -/
def afterRun (p : Char → Bool) : List Char → Option (List Char)
  | [] => none
  | c :: cs => if p c then some (cs.dropWhile p) else none

/-- What is left of a text after a base64 data address at its start. -/
def afterDataUri (cs : List Char) : Option (List Char) :=
  (after "data:" cs).bind (afterRun isTypeChar) |>.bind (after "/") |>.bind (afterRun isTypeChar)
    |>.bind (after ";base64,") |>.bind (afterRun isBase64Char)

/-- The length of a base64 data address at the start of a text. -/
def dataUriLength (cs : List Char) : Nat :=
  match afterDataUri cs with
  | some rest => cs.length - rest.length
  | none => 0

/-- What is left of a text after a bearer scheme and the blanks that follow it. -/
def afterScheme (cs : List Char) : Option (List Char) :=
  (after "Bearer" cs).bind (afterRun Text.isBlank)

/-- The length of a bearer credential at the start of a text. -/
def bearerLength (cs : List Char) : Nat :=
  match (afterScheme cs).bind (afterRun fun c => !Text.isBlank c) with
  | some rest => cs.length - rest.length
  | none => 0

/-! ## Masks -/

/-- What stands for a masked value. -/
def masked : String :=
  "<redacted>"

/-- What stands for a data address. -/
def dataUriMask (uri : List Char) : List Char :=
  "<data_uri:".toList ++ Json.intText uri.length ++ "_chars>".toList

/-- What stands for a bearer credential: its scheme, its blanks and a mask. -/
def bearerMask (credential : List Char) : List Char :=
  let scheme := "Bearer".toList
  scheme ++ (credential.drop scheme.length).takeWhile Text.isBlank ++ masked.toList

/-- What stands for the token: the end of a token of four or more characters is shown, unless the
mask would then hold the token itself. -/
def tokenMask (token : List Char) : List Char :=
  let ending := if token.length ≥ 4 then Text.takeLast 4 token else "****".toList
  let mask := "<redacted:...".toList ++ ending ++ ">".toList
  if Text.occursIn token mask then masked.toList else mask

/-- A text with its data addresses replaced. -/
def maskDataUris (cs : List Char) : List Char :=
  Text.replaceMatches dataUriLength dataUriMask cs

/-- A text with its bearer credentials masked. -/
def maskBearers (cs : List Char) : List Char :=
  Text.replaceMatches bearerLength bearerMask cs

/-- A text with the token masked; the empty token is nowhere. -/
def maskToken (token cs : List Char) : List Char :=
  if token.isEmpty then cs else Text.replaceAll token (tokenMask token) cs

/-! ## Values -/

/-- A known token that is not empty. -/
def knownToken (token : Option String) : List Char :=
  (token.getD "").toList

/-- A string with credentials masked: the token where it is known, and bearer credentials. -/
def redactCredential (token : Option String) (s : String) : String :=
  String.ofList (maskBearers (maskToken (knownToken token) s.toList))

/-- A string under a name that does not sound like a credential. -/
def redactString (token : Option String) (s : String) : String :=
  let cs := maskDataUris s.toList
  if (knownToken token).isEmpty then String.ofList cs
  else redactCredential token (String.ofList cs)

/-- The parts of names that sound like credentials. -/
def sensitiveParts : List String :=
  ["token", "secret", "password", "authorization", "private_key", "api_key"]

/-- Whether a name sounds like a credential. -/
def isSensitive (name : String) : Bool :=
  sensitiveParts.any fun part => Text.contains (Text.lower name) part

/-- What stands for a value under a name that sounds like a credential. -/
def redactSensitive (token : Option String) : Json → Json
  | .str s => if bearerLength s.toList = 0 then .str masked else .str (redactCredential token s)
  | _ => .str masked

mutual

/-- A value without secrets. -/
def redactValue (token : Option String) : Json → Json
  | .obj fields => .obj (redactFields token fields)
  | .arr items => .arr (redactItems token items)
  | .str s => .str (redactString token s)
  | j => j

/-- The items of an array without secrets. -/
def redactItems (token : Option String) : List Json → List Json
  | [] => []
  | j :: rest => redactValue token j :: redactItems token rest

/-- **The entries of an object without secrets.** -/
def redactFields (token : Option String) : List (String × Json) → List (String × Json)
  | [] => []
  | (name, j) :: rest =>
    (name, if isSensitive name then redactSensitive token j else redactValue token j) ::
      redactFields token rest

end

end PageSync.Redaction
