import PageSync.Decimal.Shortest

/-!
# Decimal/Layout — decimal numbers as text

Positional and exponent notation of a decimal, and the layout in which floating-point numbers are
written: positionally from `10 ^ -4` below `10 ^ 16`, otherwise with an exponent that has a sign and
at least two digits.
-/

namespace PageSync.Decimal

/-- The decimal digits of a whole number, the leftmost first. -/
def digitsOf (n : Nat) : List Char :=
  Nat.toDigits 10 n

/-- Zeros put before a text until it has the given length. -/
def padZeros (length : Nat) (cs : List Char) : List Char :=
  List.replicate (length - cs.length) '0' ++ cs

/-- Digits with a point before the last `places` of them; no point when there are no places. -/
def pointed (places : Nat) (digits : List Char) : List Char :=
  let ds := padZeros (places + 1) digits
  let whole := ds.take (ds.length - places)
  if places = 0 then whole else whole ++ '.' :: ds.drop (ds.length - places)

/-- An exponent with its sign and at least two digits. -/
def exponentText (mark : Char) (e : Int) : List Char :=
  mark :: (if e < 0 then '-' else '+') :: padZeros 2 (digitsOf e.natAbs)

/-- The digits of a decimal number in positional notation, with at least one place. -/
def Scientific.positional (d : Scientific) : List Char :=
  if d.exponent ≥ 0 then
    digitsOf (d.digits * tenPow d.exponent.toNat) ++ ['.', '0']
  else pointed (-d.exponent).toNat (digitsOf d.digits)

/-- A decimal number with one digit before the point and an exponent. -/
def Scientific.withExponent (d : Scientific) : List Char :=
  let ds := digitsOf d.digits
  let e := d.exponent + (ds.length : Int) - 1
  pointed (ds.length - 1) ds ++ exponentText 'e' e

/-- The power of ten of the first digit. -/
def Scientific.order (d : Scientific) : Int :=
  d.exponent + ((digitsOf d.digits).length : Int) - 1

end PageSync.Decimal

namespace PageSync.Binary64

open Decimal

/-- A sign before a text. -/
def signed (negative : Bool) (cs : List Char) : List Char :=
  if negative then '-' :: cs else cs

/-- **The text of a floating-point number**: the fewest digits that identify it. -/
def text : Binary64 → String
  | .nan => "nan"
  | .infinite negative => String.ofList (signed negative "inf".toList)
  | .finite negative mantissa exponent =>
    let d := shortest mantissa exponent
    let body := if -4 ≤ d.order ∧ d.order < 16 then d.positional else d.withExponent
    String.ofList (signed negative body)

end PageSync.Binary64
