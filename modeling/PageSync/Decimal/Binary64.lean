/-!
# Decimal/Binary64 — floating-point numbers as exact data

A finite value is `± mantissa · 2 ^ exponent` with a mantissa below `2 ^ 53` and an exponent from
`-1074` on. `ofRatio` rounds a quotient to the nearest such value, a tie to the even mantissa, and
decides everything in whole numbers.
-/

namespace PageSync

/-- A power of two. -/
def twoPow (n : Nat) : Nat :=
  Nat.pow 2 n

/-- A power of ten. -/
def tenPow (n : Nat) : Nat :=
  Nat.pow 10 n

/-- A floating-point number of 64 bits. -/
inductive Binary64 where
  | nan
  | infinite (negative : Bool)
  | finite (negative : Bool) (mantissa : Nat) (exponent : Int)
  deriving DecidableEq, Repr

namespace Binary64

/-- The zero of either sign. -/
def zero (negative : Bool) : Binary64 :=
  .finite negative 0 (-1074)

/-- The exponent at which the quotient `num / den` has a mantissa of 53 bits, or the least one. -/
def scaleOf (num den : Nat) : Int :=
  let gap : Int := (num.log2 : Int) - (den.log2 : Int)
  let full := if den * twoPow gap.toNat ≤ num * twoPow (-gap).toNat then gap - 52 else gap - 53
  max full (-1074)

/-- The whole number nearest to a quotient; a tie goes to the even one. -/
def nearest (num den : Nat) : Nat :=
  let q := num / den
  let twice := 2 * (num % den)
  if twice < den then q
  else if den < twice then q + 1
  else q + q % 2

/-- The value nearest to the quotient `num / den`; what is too large becomes infinite. -/
def ofRatio (negative : Bool) (num den : Nat) : Binary64 :=
  if num = 0 then zero negative
  else
    let e := scaleOf num den
    let m := nearest (num * twoPow (-e).toNat) (den * twoPow e.toNat)
    let (m, e) := if m = twoPow 53 then (twoPow 52, e + 1) else (m, e)
    if e > 971 then .infinite negative else .finite negative m e

/-- The value nearest to `digits · 10 ^ exponent`. -/
def ofDecimal (negative : Bool) (digits : Nat) (exponent : Int) : Binary64 :=
  let size : Int := ((Nat.toDigits 10 digits).length : Int) + exponent
  if digits = 0 then zero negative
  else if size > 400 then .infinite negative
  else if size < -400 then zero negative
  else ofRatio negative (digits * tenPow exponent.toNat) (tenPow (-exponent).toNat)

/-- Whether a value is greater than zero. -/
def isPositive : Binary64 → Bool
  | .finite false (_ + 1) _ => true
  | .infinite false => true
  | _ => false

/-- Whether a value is not a number. -/
def isNan : Binary64 → Bool
  | .nan => true
  | _ => false

/-- Whether a value is a number and not infinite. -/
def isFinite : Binary64 → Bool
  | .finite _ _ _ => true
  | _ => false

/-- Whether a value is a zero of either sign. -/
def isZero : Binary64 → Bool
  | .finite _ 0 _ => true
  | _ => false

/-- A finite value without its sign, as a quotient. -/
def ratio (mantissa : Nat) (exponent : Int) : Nat × Nat :=
  (mantissa * twoPow exponent.toNat, twoPow (-exponent).toNat)

end Binary64

end PageSync
