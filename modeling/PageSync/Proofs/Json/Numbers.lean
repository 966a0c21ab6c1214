import Mathlib.Data.List.Infix
import PageSync.Json.Printer
import PageSync.Json.Reader

/-!
# Proofs/Json/Numbers — whole numbers are read back

A whole number is written by its digits, without zeros in front (`head_toDigits_ne_zero`), so it is
read as a whole where nothing follows that could carry a number on (`readNumber_intText`).
-/

namespace PageSync.Json

/-- What follows does not carry on a number that stands before it. -/
def EndsNumber (rest : List Char) : Prop :=
  ∀ c ∈ rest.head?, c.isDigit = false ∧ c ≠ '.' ∧ c ≠ 'e' ∧ c ≠ 'E'

theorem EndsNumber.nil : EndsNumber [] :=
  fun _ hc => absurd hc (by simp)

theorem EndsNumber.cons {c : Char} {rest : List Char}
    (h : c.isDigit = false ∧ c ≠ '.' ∧ c ≠ 'e' ∧ c ≠ 'E') : EndsNumber (c :: rest) :=
  fun _ hc => Option.some.inj hc ▸ h

variable {rest : List Char}

/-! ## Digits -/

theorem isDigit_of_mem_toDigits {n : Nat} : ∀ c ∈ Nat.toDigits 10 n, c.isDigit = true :=
  fun _ hc => Nat.isDigit_of_mem_toDigits (by decide) (by decide) hc

theorem natOf_toDigits (n : Nat) : natOf (Nat.toDigits 10 n) = n :=
  Nat.ofDigitChars_ten_toDigits

/-- A number other than zero has no zero in front. -/
theorem head_toDigits_ne_zero {n : Nat} (hn : n ≠ 0) : (Nat.toDigits 10 n).head? ≠ some '0' := by
  induction n using Nat.strongRecOn with
  | ind n ih =>
    rw [Nat.toDigits_eq_if (by decide)]
    split
    next hlt =>
      have hdigit : ∀ m < 10, m ≠ 0 → some m.digitChar ≠ some '0' := by decide
      exact hdigit n hlt hn
    next hge =>
      have hne : Nat.toDigits 10 (n / 10) ≠ [] := Nat.toDigits_ne_nil
      rw [List.head?_append, Option.or_of_isSome (List.isSome_head?.mpr hne)]
      exact ih (n / 10) (by omega) (by omega)

/-- Digits are taken up to what ends the number. -/
theorem spanDigits_append {ds : List Char} (hd : ∀ c ∈ ds, c.isDigit = true)
    (hr : EndsNumber rest) : spanDigits (ds ++ rest) = (ds, rest) := by
  rw [spanDigits, List.span_eq_takeWhile_dropWhile, List.takeWhile_append_of_pos hd,
    List.dropWhile_append_of_pos hd]
  cases rest with
  | nil => simp
  | cons c rest => simp [(hr c rfl).1]

/-! ## Numbers -/

/-- Nothing that ends a number is a fraction. -/
theorem readFraction_of_ends (hr : EndsNumber rest) : readFraction rest = none := by
  cases rest with
  | nil => rfl
  | cons c rest => simp [readFraction, (hr c rfl).2.1]

/-- Nothing that ends a number is an exponent. -/
theorem readExponent_of_ends (hr : EndsNumber rest) : readExponent rest = none := by
  cases rest with
  | nil => rfl
  | cons c rest => simp [readExponent, (hr c rfl).2.2]

/-- **The digits of a number are read as the number**, under either sign. -/
theorem readUnsigned_toDigits (negative : Bool) (n : Nat) (hr : EndsNumber rest) :
    readUnsigned negative (Nat.toDigits 10 n ++ rest)
      = some (.int (if negative then -(n : Int) else n), rest) := by
  have hfraction := readFraction_of_ends hr
  have hexponent := readExponent_of_ends hr
  have hsum := natOf_toDigits n
  have hspan := spanDigits_append (isDigit_of_mem_toDigits (n := n)) hr
  by_cases hn : n = 0
  · subst hn
    simp [readUnsigned, hfraction, hexponent, natOf]
  · have hhead := head_toDigits_ne_zero hn
    cases hds : Nat.toDigits 10 n with
    | nil => exact absurd hds Nat.toDigits_ne_nil
    | cons d ds =>
      rw [hds] at hsum hspan hhead
      have hd : d ≠ '0' := fun h => hhead (h ▸ rfl)
      rw [List.cons_append] at hspan
      simp [readUnsigned, hd, hspan, hfraction, hexponent, hsum]

/-- A whole number begins with a digit or a minus. -/
theorem exists_head_intText (n : Int) :
    ∃ c cs, intText n = c :: cs ∧ (c.isDigit = true ∨ c = '-') := by
  cases h : intText n with
  | nil =>
    rw [intText] at h
    split at h
    · exact absurd h (List.cons_ne_nil _ _)
    · exact absurd h Nat.toDigits_ne_nil
  | cons c cs => exact ⟨c, cs, rfl, isDigit_or_minus_of_mem_intText (h ▸ List.mem_cons_self)⟩

/-- **A whole number reads back as itself.** -/
theorem readNumber_intText (n : Int) (hr : EndsNumber rest) :
    readNumber (intText n ++ rest) = some (.int n, rest) := by
  rw [intText]
  split
  next hn =>
    have hvalue : -(n.natAbs : Int) = n := by omega
    rw [List.cons_append, readNumber, readUnsigned_toDigits true _ hr, if_pos rfl, hvalue]
  next hn =>
    have hplain : readNumber (Nat.toDigits 10 n.natAbs ++ rest)
        = readUnsigned false (Nat.toDigits 10 n.natAbs ++ rest) := by
      cases hds : Nat.toDigits 10 n.natAbs with
      | nil => exact absurd hds Nat.toDigits_ne_nil
      | cons d ds =>
        have hd : d ≠ '-' := by
          have hdigit := isDigit_of_mem_toDigits d (hds ▸ List.mem_cons_self)
          rintro rfl
          exact absurd hdigit (by decide)
        simp [readNumber, hd]
    have hvalue : (n.natAbs : Int) = n := by omega
    rw [hplain, readUnsigned_toDigits false _ hr, if_neg Bool.false_ne_true, hvalue]

end PageSync.Json
