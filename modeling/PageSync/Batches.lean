import PageSync.Json.Printer

/-!
# Batches — splitting a list into full batches

Every batch but the last has exactly the given size, and none is empty.
-/

namespace PageSync

/-- A size of batches that cannot be met. -/
structure BadSize where
  size : Int
  deriving DecidableEq, Repr

/-- The wording of a refused size. -/
def BadSize.message (e : BadSize) : String :=
  "size must be >= 1, got " ++ String.ofList (Json.intText e.size)

/-- Cut batches of a positive size off a list; `fuel` bounds their number. -/
def cutBatches {α : Type} (size : Nat) : Nat → List α → List (List α)
  | 0, _ => []
  | _ + 1, [] => []
  | fuel + 1, x :: xs => (x :: xs).take size :: cutBatches size fuel ((x :: xs).drop size)

/-- The batches of a list, for a positive size. -/
def batchesOf {α : Type} (size : Nat) (xs : List α) : List (List α) :=
  cutBatches size xs.length xs

/-- **The batches of a list**; a size below one is refused. -/
def batches {α : Type} (size : Int) (xs : List α) : Except BadSize (List (List α)) :=
  if size < 1 then .error ⟨size⟩ else .ok (batchesOf size.toNat xs)

end PageSync
