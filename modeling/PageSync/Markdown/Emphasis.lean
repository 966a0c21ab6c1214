import PageSync.Document.Token
import PageSync.Text.Blank
import PageSync.Text.Letter

/-!
# Markdown/Emphasis — runs of emphasis marks

A run of marks may open or close emphasis, which the characters beside it decide. Runs are paired
from left to right: a run that closes takes the nearest run that opens, two marks of each for strong
text where both have two, else one. What is left of a run is text, and nothing is made around tokens
that nest as deep as `nestingLimit` already.
-/

namespace PageSync.Markdown

/-- A run of emphasis marks: how many it had, how many are left, and what it may do. -/
structure Run where
  mark : Char
  size : Nat
  left : Nat
  opens : Bool
  closes : Bool

/-- A piece of a text whose emphasis is not resolved yet. -/
inductive Piece where
  | token (t : Token)
  | run (r : Run)

/-- Characters that are neither blank nor letters nor digits. -/
def isPunctuation (c : Char) : Bool :=
  !Text.isBlank c && !Text.isAlphanumeric c

/-- A run between two characters. An underscore between letters or digits does nothing. -/
def Run.between (mark : Char) (size : Nat) (before after : Char) : Run :=
  let opens := !Text.isBlank after &&
    (!isPunctuation after || Text.isBlank before || isPunctuation before)
  let closes := !Text.isBlank before &&
    (!isPunctuation before || Text.isBlank after || isPunctuation after)
  let inert := mark == '_' && Text.isAlphanumeric before && Text.isAlphanumeric after
  ⟨mark, size, size, opens && !inert, closes && !inert⟩

/-- Whether two runs can be a pair. Where one of them could do both, the sum of their sizes may not
be a multiple of three, unless both sizes are. -/
def Run.pairs (opener closer : Run) : Bool :=
  let both := closer.opens || opener.closes
  opener.mark == closer.mark && opener.opens && opener.left != 0 &&
    !(both && closer.size % 3 != 0 && (opener.size + closer.size) % 3 == 0)

/-- The text that is left of a run. -/
def Run.token (r : Run) : Token :=
  .text (String.ofList (List.replicate r.left r.mark))

/-- A piece as a token. -/
def Piece.asToken : Piece → Token
  | .token t => t
  | .run r => r.token

/-- How deep the tokens inside a text may nest. -/
def nestingLimit : Nat :=
  20

mutual

/-- How deep a token nests: a token without children does not. -/
def nesting : Token → Nat
  | .mk _ _ _ none => 0
  | .mk _ _ _ (some ts) => nestingOf ts + 1

/-- How deep the deepest of some tokens nests. -/
def nestingOf : List Token → Nat
  | [] => 0
  | t :: ts => max (nesting t) (nestingOf ts)

end

/-- The pieces after the nearest run that a run can close, that run, and the pieces before it; the
newest piece comes first. -/
def splitOpener (closer : Run) : List Piece → Option (List Piece × Run × List Piece)
  | [] => none
  | .run r :: rest =>
    if r.pairs closer then some ([], r, rest)
    else (splitOpener closer rest).map fun (inner, o, before) => (.run r :: inner, o, before)
  | p :: rest =>
    (splitOpener closer rest).map fun (inner, o, before) => (p :: inner, o, before)

/-- Close what a run can close; the newest piece comes first. -/
def closeRun : Nat → Run → List Piece → List Piece
  | 0, r, pieces => .run r :: pieces
  | fuel + 1, r, pieces =>
    if r.left = 0 then .run r :: pieces
    else
      match splitOpener r pieces with
      | none => .run r :: pieces
      | some (inner, o, before) =>
        let count := if 2 ≤ o.left && 2 ≤ r.left then 2 else 1
        let name := if count = 2 then "strong" else "emphasis"
        let children := inner.reverse.map Piece.asToken
        if nestingLimit ≤ nestingOf children then .run r :: pieces
        else
          closeRun fuel { r with left := r.left - count }
            (.token (.branch name children) :: .run { o with left := o.left - count } :: before)

/-- Take one more piece. -/
def addPiece (pieces : List Piece) (p : Piece) : List Piece :=
  match p with
  | .run r => if r.closes then closeRun r.left r pieces else .run r :: pieces
  | .token t => .token t :: pieces

/-- Whether nothing is left of a piece. -/
def Piece.isSpent : Piece → Bool
  | .run r => r.left == 0
  | .token _ => false

/-- **The tokens of a text with its emphasis resolved.** -/
def resolveEmphasis (pieces : List Piece) : List Token :=
  ((pieces.foldl addPiece []).reverse.filter fun p => !p.isSpent).map Piece.asToken

end PageSync.Markdown
