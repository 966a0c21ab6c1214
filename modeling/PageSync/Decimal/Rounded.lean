import PageSync.Decimal.Layout

/-!
# Decimal/Rounded — floating-point numbers with a given number of digits

A number is rounded once, from its exact value, to a number of places or of digits; a half goes to
the even neighbour.
-/

namespace PageSync.Decimal

/-- The digits of a quotient with a number of places, and the point before the places. With `point`
the point is shown even where no place follows. -/
def fixed (point : Bool) (places num den : Nat) : List Char :=
  let digits := digitsOf (Binary64.nearest (num * tenPow places) den)
  pointed places digits ++ (if point && places = 0 then ['.'] else [])

/-- A quotient, not zero, in `places + 1` digits: the digits as a whole number, and the power of ten
of the first one. -/
def significant (places num den : Nat) : Nat × Int :=
  let first := magnitude num den - 1
  let shift := (places : Int) - first
  let n := Binary64.nearest (num * tenPow shift.toNat) (den * tenPow (-shift).toNat)
  if n = tenPow (places + 1) then (tenPow places, first + 1) else (n, first)

/-- A quotient with one digit before the point and an exponent. -/
def scientific (point : Bool) (places num den : Nat) : List Char :=
  let (n, e) := if num = 0 then (0, 0) else significant places num den
  pointed places (padZeros (places + 1) (digitsOf n)) ++
    (if point && places = 0 then ['.'] else []) ++ exponentText 'e' e

/-- A text of digits without zeros at the end of its places, and without a point where none are
left. -/
def dropZeroPlaces (cs : List Char) : List Char :=
  if cs.contains '.' then
    let kept := (cs.reverse.dropWhile (· == '0')).reverse
    if kept.getLast? = some '.' then kept.dropLast else kept
  else cs

/-- A quotient in at most so many digits, positionally where the exponent is small. With `point` the
zeros at the end stay. -/
def general (point : Bool) (digits num den : Nat) : List Char :=
  let digits := max digits 1
  let e := if num = 0 then 0 else (significant (digits - 1) num den).2
  if -4 ≤ e ∧ e < digits then
    let cs := fixed point ((digits : Int) - 1 - e).toNat num den
    if point then cs else dropZeroPlaces cs
  else
    let cs := scientific point (digits - 1) num den
    let (number, exponent) := cs.span (· != 'e')
    if point then cs else dropZeroPlaces number ++ exponent

end PageSync.Decimal
