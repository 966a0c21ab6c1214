import Mathlib.Data.List.Infix
import PageSync.Text.Search

/-!
# Proofs/Text/Replacing — what a replacement leaves of a text

A replacement cuts a text into gaps, where nothing is found, and hits, and puts masks for the hits
(`Replaced`).  A text that cannot reach into a mask from either side, nor stands in it, is barred by
it (`Bars`): where it occurs in what was replaced, it occurs in a gap or in what follows.  So a text
that is found wherever it stands, and is barred by all masks, occurs no more
(`not_infix_replaceMatches`), and one that did not occur does not come about by other replacements
(`Replaced.absent`).
-/

namespace PageSync.Text

/-! ## Texts inside texts -/

/-- Searching finds a text exactly where it occurs. -/
theorem occursIn_iff (needle : List Char) : ∀ cs : List Char,
    occursIn needle cs = true ↔ needle <:+: cs
  | [] => by rw [occursIn, List.isEmpty_iff, List.infix_nil]
  | c :: cs => by
      rw [occursIn, Bool.or_eq_true, List.isPrefixOf_iff_prefix, occursIn_iff needle cs,
        List.infix_cons_iff]

/-- A text without some character ends before it. -/
theorem prefix_of_prefix_append_cons {needle x y : List Char} {c : Char} (hc : c ∉ needle)
    (h : needle <+: x ++ c :: y) : needle <+: x := by
  have hx : x ++ [c] <+: x ++ c :: y := ⟨y, by rw [List.append_assoc, List.singleton_append]⟩
  rcases List.prefix_or_prefix_of_prefix h hx with h | h
  · rcases List.prefix_concat_iff.mp h with rfl | h
    · exact absurd (List.mem_append_right x (List.mem_singleton_self c)) hc
    · exact h
  · exact absurd (h.subset (List.mem_append_right x (List.mem_singleton_self c))) hc

/-- **A text without some character stands before it or after it.** -/
theorem infix_of_infix_append_cons {needle y : List Char} {c : Char} (hc : c ∉ needle) :
    ∀ {x : List Char}, needle <:+: x ++ c :: y → needle <:+: x ∨ needle <:+: y
  | [], h => by
      rcases List.infix_cons_iff.mp h with h | h
      · exact .inl (prefix_of_prefix_append_cons (x := []) hc h).isInfix
      · exact .inr h
  | d :: x, h => by
      rcases List.infix_cons_iff.mp h with h | h
      · exact .inl (prefix_of_prefix_append_cons (x := d :: x) hc h).isInfix
      · exact (infix_of_infix_append_cons hc h).imp_left List.infix_cons

/-- A text without some character does not begin with it. -/
theorem infix_of_infix_cons {needle cs : List Char} {c : Char} (hc : c ∉ needle)
    (h : needle <:+: c :: cs) : needle <:+: cs :=
  (infix_of_infix_append_cons hc (x := []) h).elim (·.trans List.nil_infix) id

/-- A text does not begin before its first character. -/
theorem infix_of_infix_append {c : Char} {needle y : List Char} :
    ∀ {x : List Char}, c ∉ x → c :: needle <:+: x ++ y → c :: needle <:+: y
  | [], _, h => h
  | d :: x, hc, h => by
      rcases List.infix_cons_iff.mp h with h | h
      · exact absurd (List.mem_cons_self (l := x)) ((List.cons_prefix_cons.mp h).1 ▸ hc)
      · exact infix_of_infix_append (fun hmem => hc (List.mem_cons_of_mem d hmem)) h

/-! ## Barriers -/

/-- A mask bars a text that neither stands in it nor reaches into it from what is around it. -/
def Bars (mask needle : List Char) : Prop :=
  ∀ x y, needle <:+: x ++ (mask ++ y) → needle <:+: x ∨ needle <:+: y

namespace Bars

variable {mask needle : List Char}

/-- What is barred by a mask does not stand in it. -/
theorem absent (h : Bars mask needle) (hne : needle ≠ []) : ¬ needle <:+: mask := by
  intro hm
  rcases h [] [] (by simpa using hm) with h | h <;> exact hne (List.infix_nil.mp h)

/-- Two characters that a text does not have fence it off from what stands around them. -/
theorem of_fence {a b : Char} {mid : List Char} (ha : a ∉ needle) (hb : b ∉ needle)
    (hmid : ¬ needle <:+: mid) : Bars (a :: (mid ++ [b])) needle := by
  intro x y h
  rw [List.cons_append, List.append_assoc, List.singleton_append] at h
  rcases infix_of_infix_append_cons ha h with h | h
  · exact .inl h
  · exact (infix_of_infix_append_cons hb h).imp_left fun h => absurd h hmid

end Bars

/-! ## Replacements -/

/-- **What a replacement makes of a text**: nothing is found in it, or there is a gap in which
nothing is found, a hit for which its mask is put, and a rest in which the replacement goes on. -/
inductive Replaced (lengthAt : List Char → Nat) (mask : List Char → List Char) :
    List Char → List Char → Prop
  | nothing {cs : List Char} (unfound : ∀ s, s <:+ cs → s ≠ [] → lengthAt s = 0) :
    Replaced lengthAt mask cs cs
  | found (gap : List Char) {hit rest out : List Char}
    (unfound : ∀ s, s <:+ gap → s ≠ [] → lengthAt (s ++ (hit ++ rest)) = 0) (hit_ne : hit ≠ [])
    (length : lengthAt (hit ++ rest) = hit.length) (later : Replaced lengthAt mask rest out) :
    Replaced lengthAt mask (gap ++ (hit ++ rest)) (gap ++ (mask hit ++ out))

variable {lengthAt : List Char → Nat} {mask : List Char → List Char}

/-- A character at which nothing is found is kept. -/
theorem Replaced.cons {c : Char} {cs out : List Char} (h : lengthAt (c :: cs) = 0) :
    Replaced lengthAt mask cs out → Replaced lengthAt mask (c :: cs) (c :: out)
  | .nothing unfound => .nothing fun s hs hne => by
      rcases List.suffix_cons_iff.mp hs with rfl | hs
      · exact h
      · exact unfound s hs hne
  | .found gap unfound hit_ne length later => by
      refine .found (c :: gap) (fun s hs hne => ?_) hit_ne length later
      rcases List.suffix_cons_iff.mp hs with rfl | hs
      · exact h
      · exact unfound s hs hne

theorem replaceFrom_eq_drop : ∀ (skip : Nat) (cs : List Char),
    replaceFrom lengthAt mask skip cs = replaceMatches lengthAt mask (cs.drop skip)
  | 0, _ => rfl
  | _ + 1, [] => rfl
  | skip + 1, _ :: cs => replaceFrom_eq_drop skip cs

/-- **The replacement of matches** that do not go beyond the text. -/
theorem replaced (hle : ∀ cs, lengthAt cs ≤ cs.length) (cs : List Char) :
    Replaced lengthAt mask cs (replaceMatches lengthAt mask cs) := by
  match cs with
  | [] => exact .nothing fun s hs hne => absurd (List.suffix_nil.mp hs) hne
  | c :: cs =>
    rw [replaceMatches, replaceFrom]
    split
    next h => exact (replaced hle cs).cons h
    next n h =>
      rw [replaceFrom_eq_drop]
      have hlen : ((c :: cs).take (n + 1)).length = n + 1 :=
        List.length_take_of_le (h.symm.trans_le (hle (c :: cs)))
      have hsplit : (c :: cs).take (n + 1) ++ cs.drop n = c :: cs :=
        List.take_append_drop (n + 1) (c :: cs)
      have := Replaced.found [] (by simp) (List.ne_nil_of_length_eq_add_one hlen)
        (by rw [hsplit, h, hlen]) (replaced hle (cs.drop n))
      rwa [hsplit] at this
termination_by cs.length
decreasing_by all_goals simp only [List.length_cons, List.length_drop]; omega

/-- **Other replacements do not bring a text about** that did not occur, when what they put for a
hit is a beginning of it and a mask that bars the text. -/
theorem Replaced.absent {needle cs out : List Char} (hout : Replaced lengthAt mask cs out)
    (hmask : ∀ hit rest, hit ≠ [] → lengthAt (hit ++ rest) = hit.length →
      ∃ kept cover, mask hit = kept ++ cover ∧ kept <+: hit ∧ Bars cover needle)
    (h : ¬ needle <:+: cs) : ¬ needle <:+: out := by
  induction hout with
  | nothing => exact h
  | @found gap hit rest out _ hit_ne length _ ih =>
    obtain ⟨kept, cover, hput, hkept, hbars⟩ := hmask hit rest hit_ne length
    intro hin
    rw [hput, List.append_assoc, ← List.append_assoc] at hin
    rcases hbars _ _ hin with hin | hin
    · exact h (hin.trans (((List.prefix_append_right_inj gap).mpr
        (hkept.trans (List.prefix_append hit rest))).isInfix))
    · exact ih (fun hr => h (hr.trans ⟨gap ++ hit, [], by simp⟩)) hin

/-- **Where nothing is found, nothing is replaced.** -/
theorem replaceMatches_of_unfound : ∀ {cs : List Char},
    (∀ s, s <:+ cs → s ≠ [] → lengthAt s = 0) → replaceMatches lengthAt mask cs = cs
  | [], _ => rfl
  | c :: cs, unfound => by
      have hc : lengthAt (c :: cs) = 0 :=
        unfound (c :: cs) (List.suffix_refl _) (List.cons_ne_nil c cs)
      have ih : replaceMatches lengthAt mask cs = cs :=
        replaceMatches_of_unfound fun s hs => unfound s (hs.trans (List.suffix_cons c cs))
      rw [replaceMatches, replaceFrom, hc]
      exact congrArg (c :: ·) ih

/-- What is found as a whole is replaced by its mask alone. -/
theorem replaceMatches_of_whole : ∀ {cs : List Char}, cs ≠ [] → lengthAt cs = cs.length →
    replaceMatches lengthAt mask cs = mask cs
  | [], hne, _ => absurd rfl hne
  | c :: cs, _, h => by
      have hall : (c :: cs).take (cs.length + 1) = c :: cs :=
        List.take_of_length_le (Nat.le_refl _)
      rw [replaceMatches, replaceFrom, h, List.length_cons]
      dsimp only
      rw [replaceFrom_eq_drop, List.drop_length, hall]
      exact List.append_nil _

/-- Masks that are not empty leave no empty text behind. -/
theorem Replaced.eq_nil {cs out : List Char} (h : Replaced lengthAt mask cs out)
    (hmask : ∀ hit, mask hit ≠ []) (hout : out = []) : cs = [] := by
  cases h with
  | nothing => exact hout
  | found gap _ _ _ _ =>
    have hput := (List.append_eq_nil_iff.mp hout).2
    exact absurd (List.append_eq_nil_iff.mp hput).1 (hmask _)

/-- A character that is in no hit and in no mask is where it was. -/
theorem Replaced.mem_iff {c : Char} {cs out : List Char} (h : Replaced lengthAt mask cs out)
    (hhit : ∀ hit rest, hit ≠ [] → lengthAt (hit ++ rest) = hit.length → c ∉ hit ∧ c ∉ mask hit) :
    c ∈ out ↔ c ∈ cs := by
  induction h with
  | nothing => rfl
  | found gap _ hit_ne length _ ih =>
    obtain ⟨hno, hmask⟩ := hhit _ _ hit_ne length
    simp only [List.mem_append, hno, hmask, false_or, ih]

/-- A text that is found wherever it stands, and nowhere in a piece, does not occur in it. -/
theorem not_infix_of_unfound {needle x y : List Char} (hne : needle ≠ [])
    (finds : ∀ rest, lengthAt (needle ++ rest) ≠ 0)
    (unfound : ∀ s, s <:+ x → s ≠ [] → lengthAt (s ++ y) = 0) : ¬ needle <:+: x := by
  rintro ⟨before, after, rfl⟩
  have hs : needle ++ after <:+ before ++ needle ++ after :=
    ⟨before, (List.append_assoc ..).symm⟩
  have hzero := unfound (needle ++ after) hs (by simp [hne])
  rw [List.append_assoc] at hzero
  exact finds (after ++ y) hzero

/-- **What is replaced by masks that bar it occurs no more.** -/
theorem not_infix_replaceMatches {needle : List Char} (hne : needle ≠ [])
    (hle : ∀ cs, lengthAt cs ≤ cs.length) (finds : ∀ rest, lengthAt (needle ++ rest) ≠ 0)
    (hbars : ∀ hit, Bars (mask hit) needle) (cs : List Char) :
    ¬ needle <:+: replaceMatches lengthAt mask cs := by
  have hout : Replaced lengthAt mask cs (replaceMatches lengthAt mask cs) := replaced hle cs
  generalize replaceMatches lengthAt mask cs = out at hout
  induction hout with
  | nothing unfound => exact not_infix_of_unfound (y := []) hne finds (by simpa using unfound)
  | found gap unfound hit_ne length later ih =>
    intro hin
    rcases hbars _ _ _ hin with hin | hin
    · exact not_infix_of_unfound hne finds unfound hin
    · exact ih hin

/-! ## Replacing a fixed text -/

theorem literalLength_le (needle cs : List Char) : literalLength needle cs ≤ cs.length := by
  rw [literalLength]
  split
  next h => exact (List.isPrefixOf_iff_prefix.mp h).length_le
  next => exact Nat.zero_le _

/-- **The replacement of a fixed text.** -/
theorem replaced_replaceAll (needle replacement cs : List Char) :
    Replaced (literalLength needle) (fun _ => replacement) cs
      (replaceAll needle replacement cs) :=
  replaced (literalLength_le needle) cs

/-- A fixed text is found wherever it stands. -/
theorem literalLength_append (needle rest : List Char) :
    literalLength needle (needle ++ rest) = needle.length := by
  rw [literalLength, if_pos (List.isPrefixOf_iff_prefix.mpr (List.prefix_append needle rest))]

/-- What a fixed text is found as is that text. -/
theorem eq_of_literalLength {needle hit rest : List Char} (hne : hit ≠ [])
    (h : literalLength needle (hit ++ rest) = hit.length) : hit = needle := by
  rw [literalLength] at h
  split at h
  next hp =>
    exact (List.prefix_of_prefix_length_le (List.isPrefixOf_iff_prefix.mp hp)
      (List.prefix_append hit rest) h.le).eq_of_length h |>.symm
  next => exact absurd (List.length_eq_zero_iff.mp h.symm) hne

/-- **A text that is replaced by a mask that bars it occurs no more.** -/
theorem not_infix_replaceAll {needle replacement : List Char} (hne : needle ≠ [])
    (hbars : Bars replacement needle) (cs : List Char) :
    ¬ needle <:+: replaceAll needle replacement cs := by
  refine not_infix_replaceMatches hne (literalLength_le needle) (fun rest => ?_)
    (fun _ => hbars) cs
  rw [literalLength_append]
  exact mt List.length_eq_zero_iff.mp hne

/-- A text without some character is not found across it. -/
theorem literalLength_append_cons {needle : List Char} {c : Char} (hc : c ∉ needle)
    (x y : List Char) : literalLength needle (x ++ c :: y) = literalLength needle x := by
  have hiff : needle.isPrefixOf (x ++ c :: y) = needle.isPrefixOf x := by
    rw [Bool.eq_iff_iff, List.isPrefixOf_iff_prefix, List.isPrefixOf_iff_prefix]
    exact ⟨prefix_of_prefix_append_cons hc, fun h => h.trans (List.prefix_append x _)⟩
  rw [literalLength, literalLength, hiff]

/-- **A character that a text does not have parts its replacement.** -/
theorem replaceAll_append_cons {needle replacement : List Char} {c : Char} (hne : needle ≠ [])
    (hc : c ∉ needle) (x y : List Char) :
    replaceAll needle replacement (x ++ c :: y) =
      replaceAll needle replacement x ++ c :: replaceAll needle replacement y := by
  match x with
  | [] =>
    have hzero : literalLength needle (c :: y) = 0 := by
      rw [← List.nil_append (c :: y), literalLength_append_cons hc, literalLength, if_neg]
      exact fun hp => hne (List.prefix_nil.mp (List.isPrefixOf_iff_prefix.mp hp))
    rw [List.nil_append, replaceAll, replaceMatches, replaceFrom, hzero]
    rfl
  | d :: x =>
    have hle := literalLength_le needle (d :: x)
    rw [replaceAll, replaceAll, replaceMatches, replaceMatches, List.cons_append, replaceFrom,
      replaceFrom, ← List.cons_append, literalLength_append_cons hc]
    split
    next => exact congrArg (d :: ·) (replaceAll_append_cons hne hc x y)
    next n h =>
      have hn : n ≤ x.length := by
        rw [h, List.length_cons] at hle
        omega
      rw [replaceFrom_eq_drop, replaceFrom_eq_drop, List.drop_append_of_le_length hn,
        List.append_assoc]
      exact congrArg (replacement ++ ·) (replaceAll_append_cons hne hc (x.drop n) y)
termination_by x.length
decreasing_by all_goals simp only [List.length_cons, List.length_drop]; omega

/-- **A text that does not occur is not replaced.** -/
theorem replaceAll_of_absent {needle replacement cs : List Char} (h : ¬ needle <:+: cs) :
    replaceAll needle replacement cs = cs := by
  refine replaceMatches_of_unfound fun s hs _ => ?_
  rw [literalLength, if_neg]
  intro hp
  exact h ((List.isPrefixOf_iff_prefix.mp hp).isInfix.trans hs.isInfix)

end PageSync.Text
