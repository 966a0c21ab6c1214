import PageSync.Config
import PageSync.Proofs.Url.Address
import PageSync.Url.Reference

/-!
# Proofs/Url/HostForm — the host that is requested

A name of this machine keeps its form in any case of its letters (`hostForm?_of_lower`): it is an
address of version 4, or its own lower case.  Brackets around an address are taken off
(`hostForm?_bracketed`).
-/

namespace PageSync.Url

theorem all_ne {mark : Char} {cs : List Char} (h : mark ∉ cs) : ∀ c ∈ cs, (c != mark) = true :=
  fun _ hc => bne_iff_ne.mpr fun he => h (he ▸ hc)

/-- **What holds of the first characters**, tried one after the other, holds of all below. -/
theorem char_of_lt {bound : Nat} {P : Char → Prop} (h : ∀ n < bound, P (Char.ofNat n)) :
    ∀ c : Char, c.toNat < bound → P c := by
  intro c hc
  have hchar := h c.toNat hc
  rwa [Char.ofNat_toNat] at hchar

/-- What has no case in ASCII is its own lower case. -/
theorem lower_of_caseless : ∀ {cs : List Char}, (∀ c ∈ cs, c.toNat < 128 ∧ c.isAlpha = false) →
    cs.flatMap Text.lowerChar = cs
  | [], _ => rfl
  | c :: cs, h => by
    have hlower : ∀ c : Char, c.toNat < 128 → c.isAlpha = false → Text.lowerChar c = [c] :=
      char_of_lt (by decide)
    obtain ⟨hlt, hcase⟩ := h c List.mem_cons_self
    rw [List.flatMap_cons, hlower c hlt hcase,
      lower_of_caseless fun d hd => h d (List.mem_cons_of_mem _ hd)]
    rfl

theorem caseless_of_isIpv4 {host : List Char} (h : isIpv4 host = true) {c : Char} (hc : c ∈ host) :
    c.toNat < 128 ∧ c.isAlpha = false := by
  rcases isDigit_or_dot_of_isIpv4 h hc with hdigit | rfl
  · simp only [Char.isDigit, Bool.and_eq_true, decide_eq_true_eq] at hdigit
    have hle : c.toNat ≤ '9'.toNat := hdigit.2
    have hcase : ∀ c : Char, c.toNat < '9'.toNat + 1 → c.isAlpha = false := char_of_lt (by decide)
    exact ⟨Nat.lt_of_le_of_lt hle (by decide), hcase c (Nat.lt_succ_of_le hle)⟩
  · decide

/-- A colon is the lower case of nothing else in ASCII. -/
theorem eq_colon_of_lowerChar : ∀ c : Char, c.toNat < 128 → ':' ∈ Text.lowerChar c → c = ':' :=
  char_of_lt (by decide)

/-- **A name of this machine, in any case of its letters**, is requested by its name. -/
theorem hostForm?_of_lower {host form : List Char} {name : String}
    (hname : name ∈ Settings.localHosts) (hlower : host.flatMap Text.lowerChar = name.toList)
    (hcolon : ':' ∉ host) (hbracket : '[' ∉ host) (h : hostForm? host = some form) :
    form = name.toList := by
  unfold hostForm? at h
  dsimp only at h
  rw [hlower] at h
  split at h
  · next hempty =>
    rw [List.isEmpty_iff.mp hempty] at hlower
    rw [← Option.some.inj h, ← hlower]
    rfl
  · split at h
    · split at h
      · next hipv4 =>
        rw [← Option.some.inj h, ← hlower]
        exact (lower_of_caseless fun c hc => caseless_of_isIpv4 hipv4 hc).symm
      · contradiction
    · split at h
      · next hopen =>
        rw [Bool.and_eq_true, decide_eq_true_eq] at hopen
        exact absurd (List.mem_of_head? hopen.1) hbracket
      · split at h
        · next hascii =>
          have hkept : ∀ name ∈ Settings.localHosts, ':' ∈ name.toList ∨
              quoteKeeping keptInHost name.toList = name.toList := by decide
          rw [← Option.some.inj h]
          rcases hkept name hname with hmem | hkept
          · rw [← hlower] at hmem
            obtain ⟨c, hc, hc'⟩ := List.mem_flatMap.mp hmem
            have hlt : c.toNat < 128 := of_decide_eq_true (List.all_eq_true.mp hascii c hc)
            exact absurd (eq_colon_of_lowerChar c hlt hc' ▸ hc) hcolon
          · exact hkept
        · have hwritten : ∀ name ∈ Settings.localHosts, asciiHost? name.toList = none ∨
              asciiHost? name.toList = some name.toList := by decide +kernel
          rcases hwritten name hname with hnone | hsome
          · rw [hnone] at h
            contradiction
          · exact Option.some.inj (h.symm.trans hsome)

/-- **An address in brackets** is requested without them. -/
theorem hostForm?_bracketed {inner form : List Char}
    (h : hostForm? ('[' :: inner ++ [']']) = some form) : form = inner ∧ isIpv6 inner = true := by
  unfold hostForm? at h
  dsimp only at h
  split at h
  · contradiction
  · split at h
    · split at h
      · next hipv4 =>
        have hbracket := isDigit_or_dot_of_isIpv4 hipv4 List.mem_cons_self
        exact absurd hbracket (by decide)
      · contradiction
    · have hlast : ('[' :: inner ++ [']']).getLast? = some ']' := List.getLast?_concat
      have hinner : (('[' :: inner ++ [']']).drop 1).dropLast = inner := List.dropLast_concat
      rw [hlast, hinner] at h
      simp only [List.cons_append, List.head?_cons, decide_true, Bool.and_self, if_true] at h
      split at h
      · next hipv6 => exact ⟨(Option.some.inj h).symm, hipv6⟩
      · contradiction

end PageSync.Url
