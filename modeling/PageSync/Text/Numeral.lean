import PageSync.Decimal.Layout
import PageSync.Text.Blank
import PageSync.Text.Letter

/-!
# Text/Numeral — numbers read from free text

Blanks around a number are allowed, and so is an underscore between two digits. Decimal digits of
any script count.
-/

namespace PageSync.Text

/-- The ASCII form of a decimal digit of any script; other characters stay. -/
def asciiDigit (c : Char) : Char :=
  match digitValue? c with
  | some d => Char.ofNat (48 + d)
  | none => c

/-- A text without its underscores, each of which has to stand between two digits. -/
def dropUnderscores (digitBefore : Bool) : List Char → Option (List Char)
  | [] => some []
  | '_' :: d :: rest =>
    if digitBefore && d.isDigit then (dropUnderscores true rest).map (d :: ·) else none
  | c :: rest => if c = '_' then none else (dropUnderscores c.isDigit rest).map (c :: ·)

/-- A text with its sign split off. -/
def splitSign : List Char → Bool × List Char
  | '-' :: rest => (true, rest)
  | '+' :: rest => (false, rest)
  | cs => (false, cs)

/-- The number that ASCII digits write. -/
def decimalValue (ds : List Char) : Nat :=
  numberOfDigits (ds.map fun d => d.toNat - 48)

/-- The trimmed text with digits in ASCII and without underscores. -/
def numeralChars (s : String) : Option (List Char) :=
  dropUnderscores false ((trim s.toList).map asciiDigit)

/-- A whole number in a text of its own. -/
def readInt? (s : String) : Option Int := do
  let cs ← numeralChars s
  let (negative, ds) := splitSign cs
  if ds.isEmpty || !ds.all Char.isDigit then none
  else some (if negative then -(decimalValue ds : Int) else decimalValue ds)

/-- The exponent that ends a decimal number: nothing, or a mark and a whole number. -/
def readExponent? : List Char → Option Int
  | [] => some 0
  | c :: rest =>
    let (negative, ds) := splitSign rest
    if !(c = 'e' || c = 'E') || ds.isEmpty || !ds.all Char.isDigit then none
    else some (if negative then -(decimalValue ds : Int) else decimalValue ds)

/-- The words for values without digits. -/
def floatWord? (negative : Bool) (cs : List Char) : Option Binary64 :=
  let word := String.ofList (cs.map Char.toLower)
  if word = "inf" || word = "infinity" then some (.infinite negative)
  else if word = "nan" then some .nan
  else none

/-- A floating-point number in a text of its own. -/
def readFloat? (s : String) : Option Binary64 := do
  let cs ← numeralChars s
  let (negative, cs) := splitSign cs
  match floatWord? negative cs with
  | some x => some x
  | none =>
    let (whole, rest) := cs.span Char.isDigit
    let (fraction, rest) := match rest with
      | '.' :: rest => rest.span Char.isDigit
      | rest => ([], rest)
    if whole.isEmpty && fraction.isEmpty then none
    else
      let e ← readExponent? rest
      some (.ofDecimal negative (decimalValue (whole ++ fraction)) (e - fraction.length))

end PageSync.Text
