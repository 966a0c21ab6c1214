import PageSync.Text.Case
import PageSync.Text.Letter

/-!
# Url/Punycode — names of hosts beyond ASCII

A label with characters beyond ASCII is written by its ASCII characters, a hyphen and the places and
distances of the others, in digits to the base 36 whose thresholds adapt to what was written before.
-/

namespace PageSync.Url

/-- A digit to the base 36. -/
def digit36 (n : Nat) : Char :=
  if n < 26 then Char.ofNat (97 + n) else Char.ofNat (22 + n)

/-- The threshold of a digit. -/
def threshold (bias k : Nat) : Nat :=
  if k ≤ bias then 1 else if bias + 26 ≤ k then 26 else k - bias

/-- A number in digits of varying base; `fuel` bounds their number. -/
def variableDigits (bias : Nat) : Nat → Nat → Nat → List Char
  | 0, _, _ => []
  | fuel + 1, k, q =>
    let t := threshold bias k
    if q < t then [digit36 q]
    else digit36 (t + (q - t) % (36 - t)) :: variableDigits bias fuel (k + 36) ((q - t) / (36 - t))

/-- Divide a distance until it is small, and count the divisions. -/
def shrink : Nat → Nat → Nat → Nat × Nat
  | 0, delta, k => (delta, k)
  | fuel + 1, delta, k => if delta > 455 then shrink fuel (delta / 35) (k + 36) else (delta, k)

/-- The bias after a distance has been written. -/
def adapt (delta count : Nat) (first : Bool) : Nat :=
  let delta := if first then delta / 700 else delta / 2
  let delta := delta + delta / count
  let (delta, k) := shrink delta delta 0
  k + 36 * delta / (delta + 38)

/-- The state of writing a label. -/
structure LabelState where
  out : List Char
  delta : Nat
  bias : Nat
  handled : Nat

/-- Pass one character while the code point `n` is being written. -/
def passChar (basic n : Nat) (s : LabelState) (c : Char) : LabelState :=
  if c.toNat < n then { s with delta := s.delta + 1 }
  else if c.toNat = n then
    { out := s.out ++ variableDigits s.bias (s.delta + 1) 36 s.delta
      delta := 0
      bias := adapt s.delta (s.handled + 1) (s.handled == basic)
      handled := s.handled + 1 }
  else s

/-- Write the code points beyond ASCII, given in rising order from `n` on. -/
def passPoints (cs : List Char) (basic : Nat) : Nat → List Nat → LabelState → LabelState
  | _, [], s => s
  | n, m :: rest, s =>
    let s := { s with delta := s.delta + (m - n) * (s.handled + 1) }
    let s := cs.foldl (passChar basic m) s
    passPoints cs basic (m + 1) rest { s with delta := s.delta + 1 }

/-- A label in ASCII, without the mark in front. -/
def punycode (cs : List Char) : List Char :=
  let ascii := cs.filter fun c => c.toNat < 128
  let points := ((cs.filter fun c => 128 ≤ c.toNat).map Char.toNat).mergeSort.eraseDups
  let start : LabelState := ⟨[], 0, 72, ascii.length⟩
  let out := (passPoints cs ascii.length 128 points start).out
  if ascii.isEmpty then out else ascii ++ '-' :: out

/-- Whether a character may stand in a label. -/
def isLabelChar (c : Char) : Bool :=
  c == '-' || (Text.isAlphanumeric c && Text.lowerChar c == [c])

/-- A label of a host in ASCII. -/
def asciiLabel? (label : List Char) : Option (List Char) :=
  let ascii := label.all fun c => c.toNat < 128
  let written := if ascii then label else "xn--".toList ++ punycode label
  let hyphen := label.head? = some '-' || label.getLast? = some '-'
  if label.isEmpty || hyphen || written.length > 63 || !label.all isLabelChar then none
  else some written

/-- The characters that separate labels. -/
def isLabelDot (c : Char) : Bool :=
  c == '.' || c.toNat == 0x3002 || c.toNat == 0xFF0E || c.toNat == 0xFF61

/-- The name of a host in ASCII; a dot may end it. -/
def asciiHost? (host : List Char) : Option (List Char) := do
  let labels := (host.map fun c => if isLabelDot c then '.' else c).splitOn '.'
  let (labels, ending) := if labels.getLast? = some [] then (labels.dropLast, ['.'])
    else (labels, [])
  if labels.isEmpty then none
  else
    let written ← labels.mapM asciiLabel?
    some (['.'].intercalate written ++ ending)

end PageSync.Url
