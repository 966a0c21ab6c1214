import Mathlib.Algebra.Order.Floor.Div
import Mathlib.Algebra.Order.Group.Nat
import Mathlib.Data.List.TakeDrop
import PageSync.Batches

/-!
# Proofs/Batches — what a split into batches is

The size cuts a first batch off a list and what is left is split the same way; `batchwise` is
induction along this.  The batches of a list, joined again, are the list (`flatten_batchesOf`); none
is empty and none is larger than the size; and the first `k` of them are the first `k * size` items
(`flatten_take_batchesOf`), so every batch but the last is full.  `batchesOf_eq_map_range` gives the
batches by their numbers.

These laws leave no choice: the first batch of a split is what the size cuts off the list
(`FullSplit.take_eq`), and the others split what is left, so there is only one `FullSplit`
(`batches_unique_fullSplit`).
-/

namespace PageSync

variable {α : Type}

/-! ## One batch after the other -/

/-- Behind the first batch there are fewer items. -/
theorem length_drop_cons_le {size : Nat} (hs : 0 < size) (x : α) (xs : List α) :
    ((x :: xs).drop size).length ≤ xs.length := by
  rw [List.length_drop, List.length_cons]
  omega

/-- Fuel for the whole list is enough, so more of it changes nothing. -/
theorem cutBatches_eq {size : Nat} (hs : 0 < size) : ∀ {fuel : Nat} {xs : List α},
    xs.length ≤ fuel → cutBatches size fuel xs = cutBatches size xs.length xs
  | 0, xs, h => by
      obtain rfl : xs = [] := List.length_eq_zero_iff.mp (Nat.le_zero.mp h)
      rfl
  | fuel + 1, [], _ => rfl
  | fuel + 1, x :: xs, h => by
      have hd := length_drop_cons_le hs x xs
      have hf : xs.length ≤ fuel := Nat.le_of_succ_le_succ h
      rw [List.length_cons, cutBatches, cutBatches, cutBatches_eq hs (hd.trans hf),
        cutBatches_eq hs hd]

@[simp] theorem batchesOf_nil (size : Nat) : batchesOf size ([] : List α) = [] := rfl

/-- **A batch is cut off the front**, and the rest is split the same way. -/
theorem batchesOf_cons {size : Nat} (hs : 0 < size) (x : α) (xs : List α) :
    batchesOf size (x :: xs) = (x :: xs).take size :: batchesOf size ((x :: xs).drop size) := by
  rw [batchesOf, batchesOf, List.length_cons, cutBatches,
    cutBatches_eq hs (length_drop_cons_le hs x xs)]

/-- **Induction batch by batch**: what holds of no items, and of a list when it holds of what is
left behind the first batch, holds of every list. -/
@[elab_as_elim]
theorem batchwise {size : Nat} (hs : 0 < size) {P : List α → Prop} (nil : P [])
    (cons : ∀ (x : α) (xs : List α), P ((x :: xs).drop size) → P (x :: xs)) : ∀ xs : List α, P xs
  | [] => nil
  | x :: xs => cons x xs (batchwise hs nil cons ((x :: xs).drop size))
termination_by xs => xs.length
decreasing_by exact Nat.lt_succ_of_le (length_drop_cons_le hs x xs)

/-! ## The laws of a split -/

/-- **The first batches are a full beginning of the list.** -/
theorem flatten_take_batchesOf {size : Nat} (hs : 0 < size) : ∀ (k : Nat) (xs : List α),
    ((batchesOf size xs).take k).flatten = xs.take (k * size)
  | 0, xs => by rw [List.take_zero, Nat.zero_mul, List.take_zero, List.flatten_nil]
  | k + 1, [] => by rw [batchesOf_nil, List.take_nil, List.take_nil, List.flatten_nil]
  | k + 1, x :: xs => by
      rw [batchesOf_cons hs, List.take_succ_cons, List.flatten_cons,
        flatten_take_batchesOf hs k ((x :: xs).drop size), Nat.succ_mul, Nat.add_comm,
        List.take_add]

/-- **The batches of a list, joined again, are the list.** -/
theorem flatten_batchesOf {size : Nat} (hs : 0 < size) (xs : List α) :
    (batchesOf size xs).flatten = xs := by
  induction xs using batchwise hs with
  | nil => rfl
  | cons x xs ih => rw [batchesOf_cons hs, List.flatten_cons, ih, List.take_append_drop]

/-- No batch is empty, and none is larger than the size. -/
theorem length_of_mem_batchesOf {size : Nat} (hs : 0 < size) (xs : List α) :
    ∀ b ∈ batchesOf size xs, 1 ≤ b.length ∧ b.length ≤ size := by
  induction xs using batchwise hs with
  | nil => simp
  | cons x xs ih =>
    rw [batchesOf_cons hs, List.forall_mem_cons]
    refine ⟨?_, ih⟩
    rw [List.length_take, List.length_cons]
    omega

/-- **The number of batches** is the quotient, rounded up. -/
theorem length_batchesOf {size : Nat} (hs : 0 < size) (xs : List α) :
    (batchesOf size xs).length = (xs.length + size - 1) / size := by
  induction xs using batchwise hs with
  | nil =>
    rw [batchesOf_nil, List.length_nil, List.length_nil, Nat.zero_add]
    exact (Nat.div_eq_of_lt (Nat.sub_one_lt_of_lt hs)).symm
  | cons x xs ih =>
    rw [batchesOf_cons hs, List.length_cons, ih, List.length_drop]
    rcases Nat.le_total (x :: xs).length size with hle | hge
    · rw [Nat.sub_eq_zero_of_le hle, Nat.zero_add, Nat.div_eq_of_lt (by omega)]
      have hx : 0 < (x :: xs).length := Nat.succ_pos _
      refine (Nat.div_eq_of_lt_le ?_ ?_).symm <;> omega
    · have hsum : (x :: xs).length + size - 1 = ((x :: xs).length - size + size - 1) + size := by
        omega
      rw [hsum, Nat.add_div_right _ hs]

/-- **Every batch but the last is full**, so the batches before it hold a multiple of the size. -/
theorem length_flatten_take_batchesOf {size : Nat} (hs : 0 < size) {k : Nat} {xs : List α}
    (hk : k < (batchesOf size xs).length) :
    ((batchesOf size xs).take k).flatten.length = k * size := by
  rw [flatten_take_batchesOf hs, List.length_take]
  rw [length_batchesOf hs, Nat.lt_iff_add_one_le, Nat.le_div_iff_mul_le hs, Nat.succ_mul] at hk
  omega

/-- A batch that another one follows is full. -/
theorem length_of_mem_dropLast_batchesOf {size : Nat} (hs : 0 < size) (xs : List α) :
    ∀ b ∈ (batchesOf size xs).dropLast, b.length = size := by
  induction xs using batchwise hs with
  | nil => simp
  | cons x xs ih =>
    rw [batchesOf_cons hs]
    -- another batch follows exactly if anything is left
    cases hr : (x :: xs).drop size with
    | nil => simp
    | cons y ys =>
      have hmore : batchesOf size (y :: ys) ≠ [] := by
        rw [batchesOf_cons hs]
        exact List.cons_ne_nil _ _
      have hlong : size < (x :: xs).length :=
        List.length_lt_of_drop_ne_nil (by rw [hr]; exact List.cons_ne_nil _ _)
      rw [List.dropLast_cons_of_ne_nil hmore, List.forall_mem_cons]
      exact ⟨List.length_take_of_le hlong.le, hr ▸ ih⟩

/-! ## The only split -/

/-- **A split of a list into full batches**: joined again they are the list, none is empty, every
batch but the last has exactly the size, and the last is no larger. -/
structure FullSplit (size : Nat) (xs : List α) (bs : List (List α)) : Prop where
  flatten : bs.flatten = xs
  nonempty : ∀ b ∈ bs, b ≠ []
  full : ∀ b ∈ bs.dropLast, b.length = size
  last : ∀ b ∈ bs.getLast?, b.length ≤ size

theorem fullSplit_batchesOf {size : Nat} (hs : 0 < size) (xs : List α) :
    FullSplit size xs (batchesOf size xs) where
  flatten := flatten_batchesOf hs xs
  nonempty b hb := List.ne_nil_of_length_pos (length_of_mem_batchesOf hs xs b hb).1
  full := length_of_mem_dropLast_batchesOf hs xs
  last b hb := (length_of_mem_batchesOf hs xs b (List.mem_of_mem_getLast? hb)).2

namespace FullSplit

variable {size : Nat} {xs b : List α} {bs : List (List α)}

/-- **The first batch is what the size cuts off**: it is full, or there is no other. -/
theorem take_eq (h : FullSplit size xs (b :: bs)) : xs.take size = b := by
  rw [← h.flatten, List.flatten_cons]
  cases bs with
  | nil => rw [List.flatten_nil, List.append_nil, List.take_of_length_le (h.last b rfl)]
  | cons c rest => exact List.take_left' (h.full b List.mem_cons_self)

/-- What is left behind the first batch is what the others hold. -/
theorem drop_eq (h : FullSplit size xs (b :: bs)) : xs.drop size = bs.flatten := by
  have hcut : b ++ bs.flatten = b ++ xs.drop size := by
    rw [← List.flatten_cons, h.flatten, ← h.take_eq, List.take_append_drop]
  exact (List.append_cancel_left hcut).symm

/-- The other batches are a split of what is left. -/
theorem tail (h : FullSplit size xs (b :: bs)) : FullSplit size (xs.drop size) bs where
  flatten := h.drop_eq.symm
  nonempty c hc := h.nonempty c (List.mem_cons_of_mem b hc)
  full c hc := by
    cases bs with
    | nil => exact absurd hc List.not_mem_nil
    | cons => exact h.full c (List.mem_cons_of_mem b hc)
  last c hc := by
    cases bs with
    | nil => cases hc
    | cons => exact h.last c hc

/-- **There is only one split**: batch by batch it is the one that cuts from the front. -/
theorem eq_batchesOf (hs : 0 < size) : ∀ {bs : List (List α)} {xs : List α},
    FullSplit size xs bs → bs = batchesOf size xs
  | [], xs, h => by rw [← h.flatten, List.flatten_nil, batchesOf_nil]
  | b :: bs, [], h => by
      have hempty : b = [] := (List.append_eq_nil_iff.mp h.flatten).1
      exact absurd hempty (h.nonempty b List.mem_cons_self)
  | b :: bs, x :: xs, h => by rw [batchesOf_cons hs, h.take_eq, ← eq_batchesOf hs h.tail]

end FullSplit

/-- **The batches of a list are its only split into full ones.**  A size below one is refused, and
no other is; for any other the batches are a full split, their number is the quotient rounded up,
and every full split of the list is the same. -/
theorem batches_unique_fullSplit (size : Int) (xs : List α) :
    (∀ e, batches size xs = .error e ↔ size < 1 ∧ e = ⟨size⟩) ∧
    (1 ≤ size → ∃ bs, batches size xs = .ok bs ∧ FullSplit size.toNat xs bs ∧
      bs.length = xs.length ⌈/⌉ size.toNat ∧
      ∀ others, FullSplit size.toNat xs others → others = bs) := by
  refine ⟨fun e => ?_, fun hsize => ?_⟩
  · rw [batches]
    split
    next hlow => simp [hlow, eq_comm]
    next hhigh => simp [hhigh]
  · have hs : 0 < size.toNat := by omega
    refine ⟨batchesOf size.toNat xs, if_neg (by omega), fullSplit_batchesOf hs xs, ?_,
      fun others h => h.eq_batchesOf hs⟩
    rw [length_batchesOf hs, Nat.ceilDiv_eq_add_pred_div]

/-- The last batch holds what is left. -/
example : batches 2 [1, 2, 3, 4, 5] = .ok [[1, 2], [3, 4], [5]] := rfl

/-! ## Batches by their numbers -/

/-- The batch with a number: so many items from there on. -/
def batchAt (size : Nat) (xs : List α) (i : Nat) : List α :=
  (xs.drop (i * size)).take size

theorem batchAt_succ (size : Nat) (xs : List α) (i : Nat) :
    batchAt size xs (i + 1) = batchAt size (xs.drop size) i := by
  rw [batchAt, batchAt, List.drop_drop, Nat.succ_mul, Nat.add_comm]

/-- **The batches are the pieces of the list between multiples of the size.** -/
theorem batchesOf_eq_map_range {size : Nat} (hs : 0 < size) (xs : List α) :
    batchesOf size xs = (List.range (batchesOf size xs).length).map (batchAt size xs) := by
  induction xs using batchwise hs with
  | nil => rfl
  | cons x xs ih =>
    rw [batchesOf_cons hs, List.length_cons, List.range_succ_eq_map, List.map_cons, List.map_map]
    refine congrArg₂ List.cons ?_ (ih.trans ?_)
    · rw [batchAt, Nat.zero_mul, List.drop_zero]
    · exact List.map_congr_left fun i _ => (batchAt_succ size (x :: xs) i).symm

theorem take_batchesOf {size : Nat} (hs : 0 < size) (k : Nat) (xs : List α) :
    (batchesOf size xs).take k
      = (List.range (min k (batchesOf size xs).length)).map (batchAt size xs) := by
  rw [← List.take_range, List.map_take, ← batchesOf_eq_map_range hs]

end PageSync
