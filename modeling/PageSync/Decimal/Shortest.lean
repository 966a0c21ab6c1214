import PageSync.Decimal.Binary64

/-!
# Decimal/Shortest — the fewest digits that identify a floating-point number

The numbers that round to a value form an interval, its ends included exactly when the mantissa is
even. For one digit, two digits and so on, the two neighbours of the value on that decimal grid are
tested; the first grid that meets the interval gives the digits, and of two neighbours inside it the
nearer one.
-/

namespace PageSync.Decimal

/-- A decimal number `digits · 10 ^ exponent`. -/
structure Scientific where
  digits : Nat
  exponent : Int
  deriving DecidableEq, Repr

/-- The least `k`, from a first guess on, with `num / den < 10 ^ k`. -/
def magnitude (num den : Nat) : Int :=
  let guess := (((num.log2 : Int) - (den.log2 : Int)) * 30103).fdiv 100000 - 1
  let below (k : Int) : Bool := num * tenPow (-k).toNat < den * tenPow k.toNat
  if below guess then guess
  else if below (guess + 1) then guess + 1
  else if below (guess + 2) then guess + 2
  else guess + 3

/-- Compare `digits · 10 ^ exponent` with `m · 2 ^ q`. -/
def Scientific.compareWith (d : Scientific) (m : Nat) (q : Int) : Ordering :=
  compare (d.digits * tenPow d.exponent.toNat * twoPow (-q).toNat)
    (m * twoPow q.toNat * tenPow (-d.exponent).toNat)

/-- Whether a decimal lies among the numbers that round to `mantissa · 2 ^ exponent`. -/
def Scientific.roundsTo (d : Scientific) (mantissa : Nat) (exponent : Int) : Bool :=
  let narrow := mantissa == twoPow 52 && exponent > -1074
  let low := if narrow then 4 * mantissa - 1 else 4 * mantissa - 2
  let closed := mantissa % 2 == 0
  let atLow := d.compareWith low (exponent - 2)
  let atHigh := d.compareWith (4 * mantissa + 2) (exponent - 2)
  (atLow == .gt || (closed && atLow == .eq)) && (atHigh == .lt || (closed && atHigh == .eq))

/-- The decimal without its trailing zeros; `fuel` bounds their number. -/
def Scientific.strip : Nat → Scientific → Scientific
  | 0, d => d
  | fuel + 1, d =>
    if d.digits ≠ 0 && d.digits % 10 == 0 then strip fuel ⟨d.digits / 10, d.exponent + 1⟩ else d

/-- The decimal of the grid `10 ^ grid` that rounds to the value and is nearest to it, if any. -/
def onGrid (m : Nat) (exponent grid : Int) : Option Scientific :=
  let (num, den) := Binary64.ratio m exponent
  let num := num * tenPow (-grid).toNat
  let den := den * tenPow grid.toNat
  let low : Scientific := ⟨num / den, grid⟩
  let high : Scientific := ⟨num / den + 1, grid⟩
  let lowFits := low.digits ≠ 0 && low.roundsTo m exponent
  let highFits := high.roundsTo m exponent
  if lowFits && highFits then
    let twice := 2 * (num % den)
    some (if twice < den || (twice == den && low.digits % 2 == 0) then low else high)
  else if lowFits then some low
  else if highFits then some high
  else none

/-- The first hit on the grids of `count`, `count + 1`, … digits below `10 ^ top`. -/
def searchFrom (mantissa : Nat) (exponent top : Int) : Nat → Nat → Option Scientific
  | _, 0 => none
  | count, more + 1 =>
    match onGrid mantissa exponent (top - count) with
    | some d => some d
    | none => searchFrom mantissa exponent top (count + 1) more

/-- **The shortest decimal that rounds to** `mantissa · 2 ^ exponent`. -/
def shortest (mantissa : Nat) (exponent : Int) : Scientific :=
  if mantissa = 0 then ⟨0, 0⟩
  else
    let (num, den) := Binary64.ratio mantissa exponent
    match searchFrom mantissa exponent (magnitude num den) 1 17 with
    | some d => d.strip 20
    | none => ⟨mantissa * twoPow exponent.toNat * Nat.pow 5 (-exponent).toNat, -(-exponent).toNat⟩

end PageSync.Decimal
