/-!
# Text/Ranges — sets of characters given by ranges of code points
-/

namespace PageSync.Text

/-- Whether a code point lies in one of the inclusive ranges. -/
def inRanges (ranges : List (Nat × Nat)) (code : Nat) : Bool :=
  ranges.any fun (lo, hi) => lo ≤ code && code ≤ hi

/-- A run of code points `lo, lo + step, …, hi` that are all moved by the same distance. -/
structure Shift where
  lo : Nat
  hi : Nat
  step : Nat
  distance : Int

/-- Where the first run that holds the code point moves it to; other code points stay. -/
def shifted (runs : List Shift) (code : Nat) : Nat :=
  match runs.find? fun r => r.lo ≤ code && code ≤ r.hi && (code - r.lo) % r.step == 0 with
  | some r => ((code : Int) + r.distance).toNat
  | none => code

end PageSync.Text
