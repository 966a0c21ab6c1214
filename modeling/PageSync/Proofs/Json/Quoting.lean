import PageSync.Json.Printer
import PageSync.Json.Reader

/-!
# Proofs/Json/Quoting — what stands in quotes is read back

A character is written as it is, by a short escape, or by the escapes of its 16-bit units; a
character has at most two units, and only the first of two is one that waits for another.  So
reading takes one written character after the other, whatever has been read before
(`readQuoted_escapeChar`), and a quoted string reads back as the string (`readQuoted_quote`).
-/

namespace PageSync.Json

variable {acc rest : List Char}

/-! ## Units -/

theorem hexValue?_hexDigit : ∀ n < 16, hexValue? (hexDigit n) = some n := by
  decide

/-- A unit is read from its four digits. -/
theorem unitOf?_digits {u : Nat} (hu : u < 0x10000) :
    unitOf? (hexDigit (u / 4096 % 16)) (hexDigit (u / 256 % 16)) (hexDigit (u / 16 % 16))
      (hexDigit (u % 16)) = some u := by
  have hdigit (n : Nat) : hexValue? (hexDigit (n % 16)) = some (n % 16) :=
    hexValue?_hexDigit _ (Nat.mod_lt _ (by decide))
  have hsum : u / 4096 % 16 * 4096 + u / 256 % 16 * 256 + u / 16 % 16 * 16 + u % 16 = u := by
    omega
  simp only [unitOf?, hdigit, Option.bind_eq_bind, Option.bind_some, Option.pure_def, hsum]

/-- A unit that is no half of a pair is a character. -/
theorem readQuoted_unit {u : Nat} (hu : u < 0x10000) (hh : isHighUnit u = false)
    (hl : isLowUnit u = false) :
    readQuoted acc none (unitEscape u ++ rest) = readQuoted (Char.ofNat u :: acc) none rest := by
  rw [unitEscape]
  simp [readQuoted, unitOf?_digits hu, charOfUnit, hh, hl]

/-- The first half of a pair waits for the second. -/
theorem readQuoted_high {u : Nat} (hu : u < 0x10000) (hh : isHighUnit u = true) :
    readQuoted acc none (unitEscape u ++ rest) = readQuoted acc (some u) rest := by
  rw [unitEscape]
  simp [readQuoted, unitOf?_digits hu, hh]

/-- The second half of a pair ends the waiting. -/
theorem readQuoted_low {h u : Nat} (hu : u < 0x10000) (hl : isLowUnit u = true) :
    readQuoted acc (some h) (unitEscape u ++ rest) =
      readQuoted (charOfPair h u :: acc) none rest := by
  rw [unitEscape]
  simp [readQuoted, unitOf?_digits hu, hl]

/-- A character beyond the basic plane comes from its two halves. -/
theorem charOfPair_halves {c : Char} (hc : 0x10000 ≤ c.toNat) :
    charOfPair (0xD800 + (c.toNat - 0x10000) / 0x400)
      (0xDC00 + (c.toNat - 0x10000) % 0x400) = c := by
  rw [charOfPair]
  have hsum : 0x10000 + (0xD800 + (c.toNat - 0x10000) / 0x400 - 0xD800) * 0x400
      + (0xDC00 + (c.toNat - 0x10000) % 0x400 - 0xDC00) = c.toNat := by
    omega
  rw [hsum, Char.ofNat_toNat]

/-- **A character is read from its units.** -/
theorem readQuoted_unicodeEscape (c : Char) :
    readQuoted acc none (unicodeEscape c ++ rest) = readQuoted (c :: acc) none rest := by
  have hvalid : c.toNat < 0xD800 ∨ 0xDFFF < c.toNat ∧ c.toNat < 0x110000 := c.valid
  rw [unicodeEscape]
  split
  next hsmall =>
    have hh : isHighUnit c.toNat = false := by
      simp [isHighUnit]; omega
    have hl : isLowUnit c.toNat = false := by
      simp [isLowUnit]; omega
    rw [readQuoted_unit hsmall hh hl, Char.ofNat_toNat]
  next hbig =>
    have hbig : 0x10000 ≤ c.toNat := Nat.le_of_not_lt hbig
    have hh : isHighUnit (0xD800 + (c.toNat - 0x10000) / 0x400) = true := by
      simp [isHighUnit]; omega
    have hl : isLowUnit (0xDC00 + (c.toNat - 0x10000) % 0x400) = true := by
      simp [isLowUnit]; omega
    rw [List.append_assoc, readQuoted_high (by omega) hh, readQuoted_low (by omega) hl,
      charOfPair_halves hbig]

/-! ## Characters -/

/-- **The three ways in which a character is written**: by a short escape, by its units, or as it
is, which no quote, backslash or control character is. -/
theorem escapeChar_cases (ascii : Bool) (c : Char) :
    (∃ e, escapeChar ascii c = ['\\', e] ∧ simpleEscape? e = some c) ∨
      escapeChar ascii c = unicodeEscape c ∨
        escapeChar ascii c = [c] ∧ c ≠ '"' ∧ c ≠ '\\' ∧ 32 ≤ c.toNat ∧
          (ascii = true → c.toNat < 127) := by
  have named {n : Nat} (h : c.toNat = n) : c = Char.ofNat n := by
    rw [← h, Char.ofNat_toNat]
  unfold escapeChar
  split
  next h =>
    subst h
    exact .inl ⟨'"', rfl, rfl⟩
  split
  next h =>
    subst h
    exact .inl ⟨'\\', rfl, rfl⟩
  split
  next h => exact .inl ⟨'n', rfl, h ▸ rfl⟩
  split
  next h => exact .inl ⟨'r', rfl, h ▸ rfl⟩
  split
  next h => exact .inl ⟨'t', rfl, h ▸ rfl⟩
  split
  next h => exact .inl ⟨'b', rfl, named h ▸ rfl⟩
  split
  next h => exact .inl ⟨'f', rfl, named h ▸ rfl⟩
  split
  next => exact .inr (.inl rfl)
  split
  next => exact .inr (.inl rfl)
  next hq hb _ _ _ _ _ hcontrol hascii =>
    refine .inr (.inr ⟨rfl, hq, hb, Nat.le_of_not_lt hcontrol, fun ha => ?_⟩)
    simpa [ha] using hascii

/-- A short escape stands for its character. -/
theorem readQuoted_simple {e c : Char} (he : simpleEscape? e = some c) :
    readQuoted acc none ('\\' :: e :: rest) = readQuoted (c :: acc) none rest := by
  have hu : e ≠ 'u' := by
    rintro rfl
    simp [simpleEscape?] at he
  rw [readQuoted.eq_3 _ _ _ _ (fun _ _ _ _ _ h _ => hu h)]
  simp [he]

/-- **One written character is read as that character.** -/
theorem readQuoted_escapeChar (ascii : Bool) (c : Char) :
    readQuoted acc none (escapeChar ascii c ++ rest) = readQuoted (c :: acc) none rest := by
  rcases escapeChar_cases ascii c with ⟨e, hw, he⟩ | hw | ⟨hw, hq, hb, hc, -⟩
  · rw [hw]
    exact readQuoted_simple he
  · rw [hw]
    exact readQuoted_unicodeEscape c
  · have hcontrol : ¬ c.toNat < 32 := Nat.not_lt.mpr hc
    rw [hw]
    simp [readQuoted, hq, hb, hcontrol]

/-! ## Strings -/

theorem readQuoted_escaped (ascii : Bool) (rest : List Char) : ∀ cs acc : List Char,
    readQuoted acc none (cs.flatMap (escapeChar ascii) ++ '"' :: rest)
      = some (acc.reverse ++ cs, rest)
  | [], acc => by simp [readQuoted]
  | c :: cs, acc => by
      rw [List.flatMap_cons, List.append_assoc, readQuoted_escapeChar,
        readQuoted_escaped ascii rest cs (c :: acc), List.reverse_cons, List.append_assoc,
        List.singleton_append]

/-- **A quoted string reads back as the string.** -/
theorem readQuoted_quote (ascii : Bool) (s : String) (rest : List Char) :
    ∃ body, quote ascii s ++ rest = '"' :: body ∧
      readQuoted [] none body = some (s.toList, rest) := by
  refine ⟨s.toList.flatMap (escapeChar ascii) ++ '"' :: rest, ?_, ?_⟩
  · simp [quote]
  · exact readQuoted_escaped ascii rest s.toList []

end PageSync.Json
