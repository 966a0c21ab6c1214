/-!
# Text/Search — finding and replacing inside a text

`replaceMatches` replaces, from left to right and without overlap, what a length function finds:
`lengthAt` says how many characters match at the start of a text, and `0` means that none do.
-/

namespace PageSync.Text

/-- Whether one text stands somewhere inside another. -/
def occursIn (needle : List Char) : List Char → Bool
  | [] => needle.isEmpty
  | c :: cs => needle.isPrefixOf (c :: cs) || occursIn needle cs

/-- Whether one text stands somewhere inside another. -/
def contains (hay needle : String) : Bool :=
  occursIn needle.toList hay.toList

/-- Replace every match, leftmost first; `skip` characters still belong to the last match. -/
def replaceFrom (lengthAt : List Char → Nat) (mask : List Char → List Char) :
    Nat → List Char → List Char
  | _, [] => []
  | skip + 1, _ :: cs => replaceFrom lengthAt mask skip cs
  | 0, c :: cs =>
    match lengthAt (c :: cs) with
    | 0 => c :: replaceFrom lengthAt mask 0 cs
    | n + 1 => mask ((c :: cs).take (n + 1)) ++ replaceFrom lengthAt mask n cs

/-- **Replace every match**, leftmost first. -/
def replaceMatches (lengthAt : List Char → Nat) (mask : List Char → List Char)
    (cs : List Char) : List Char :=
  replaceFrom lengthAt mask 0 cs

/-- The length of a fixed text where a text starts with it. -/
def literalLength (needle cs : List Char) : Nat :=
  if needle.isPrefixOf cs then needle.length else 0

/-- Replace every occurrence of a fixed text. -/
def replaceAll (needle replacement cs : List Char) : List Char :=
  replaceMatches (literalLength needle) (fun _ => replacement) cs

/-- The last `n` characters of a text. -/
def takeLast (n : Nat) (cs : List Char) : List Char :=
  cs.drop (cs.length - n)

end PageSync.Text
