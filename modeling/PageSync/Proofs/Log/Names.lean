import Mathlib.Data.List.Infix
import Mathlib.Data.Nat.Init
import PageSync.Log.Registry

/-!
# Proofs/Log/Names — which names stand above a name

`StandsAbove` says it by dots alone: the lower name goes on with a dot after the upper one.  The
names that `above` lists stand above (`standsAbove_of_mem`), the longest first (`pairwise_above`),
and of a name without two dots in a row it lists all of them (`mem_above_iff`).  Above such a name
stands nothing, or one name and what stands above that one (`above_cases`), so facts about lineages
are proved from each name to the next (`SingleDots.ascend`).
-/

namespace PageSync.Log

/-- **One name stands above another**: the other goes on with a dot after it. -/
def StandsAbove (p name : String) : Prop :=
  p ≠ "" ∧ ∃ rest, name = p ++ "." ++ rest

/-- A name has no two dots in a row. -/
def SingleDots (name : String) : Prop :=
  ¬ ['.', '.'] <:+: name.toList

instance (name : String) : Decidable (SingleDots name) :=
  inferInstanceAs (Decidable (¬ _))

/-! ## The parts before the dots -/

theorem eq_append_of_mem_beforeDots {cs part : List Char} (h : part ∈ beforeDots cs) :
    part ≠ [] ∧ ∃ after, cs = after ++ '.' :: part := by
  fun_induction beforeDots cs with
  | case1 c rest ih =>
    rcases List.mem_cons.mp h with rfl | h
    · exact ⟨List.cons_ne_nil c rest, [], rfl⟩
    · obtain ⟨hne, after, rfl⟩ := ih h
      exact ⟨hne, '.' :: c :: after, rfl⟩
  | case2 c rest _ ih =>
    obtain ⟨hne, after, rfl⟩ := ih h
    exact ⟨hne, c :: after, rfl⟩
  | case3 => exact absurd h List.not_mem_nil

theorem beforeDots_cons_of_ne {c : Char} (hc : c ≠ '.') (rest : List Char) :
    beforeDots (c :: rest) = beforeDots rest := by
  rw [beforeDots]
  rintro d ds rfl
  exact absurd rfl hc

theorem not_infix_of_cons {c : Char} {cs : List Char} (h : ¬ ['.', '.'] <:+: c :: cs) :
    ¬ ['.', '.'] <:+: cs :=
  fun hcs => h (hcs.trans (List.suffix_cons c cs).isInfix)

/-- Without two dots in a row, no dot is overlooked. -/
theorem mem_beforeDots {part : List Char} (hne : part ≠ []) : ∀ after : List Char,
    ¬ ['.', '.'] <:+: after ++ '.' :: part → part ∈ beforeDots (after ++ '.' :: part)
  | [], _ => by
      obtain ⟨c, rest, rfl⟩ := List.exists_cons_of_ne_nil hne
      exact List.mem_cons_self
  | [c], h => by
      have hc : c ≠ '.' := by
        rintro rfl
        exact h ⟨[], part, rfl⟩
      rw [List.singleton_append, beforeDots_cons_of_ne hc]
      exact mem_beforeDots hne [] (not_infix_of_cons h)
  | c :: d :: after, h => by
      by_cases hc : c = '.'
      · subst hc
        exact List.mem_cons_of_mem _
          (mem_beforeDots hne after (not_infix_of_cons (not_infix_of_cons h)))
      · rw [List.cons_append, beforeDots_cons_of_ne hc]
        exact mem_beforeDots hne (d :: after) (not_infix_of_cons h)

/-- Before the last dot stands a part with its own parts before dots. -/
theorem beforeDots_cases {cs : List Char} (h : ¬ ['.', '.'] <:+: cs) :
    beforeDots cs = [] ∨ ∃ part, beforeDots cs = part :: beforeDots part := by
  fun_induction beforeDots cs with
  | case1 c rest ih =>
    have hc : c ≠ '.' := by
      rintro rfl
      exact h ⟨[], rest, rfl⟩
    exact .inr ⟨c :: rest, congrArg _ (beforeDots_cons_of_ne hc rest).symm⟩
  | case2 c rest _ ih => exact ih (not_infix_of_cons h)
  | case3 => exact .inl rfl

theorem pairwise_beforeDots (cs : List Char) :
    (beforeDots cs).Pairwise fun part part' => part'.length < part.length := by
  fun_induction beforeDots cs with
  | case1 c rest ih =>
    exact ih.cons fun part hpart => (length_lt_of_mem_beforeDots hpart).trans (Nat.lt_succ_self _)
  | case2 c rest _ ih => exact ih
  | case3 => exact .nil

/-! ## The names above -/

/-- A name that stands above another, told of the characters that are read last first. -/
theorem standsAbove_iff {p name : String} : StandsAbove p name ↔
    p.toList.reverse ≠ [] ∧ ∃ after, name.toList.reverse = after ++ '.' :: p.toList.reverse := by
  refine and_congr (by simp) ⟨?_, ?_⟩
  · rintro ⟨rest, rfl⟩
    exact ⟨rest.toList.reverse, by simp⟩
  · rintro ⟨after, h⟩
    refine ⟨String.ofList after.reverse, String.toList_inj.mp (List.reverse_injective ?_)⟩
    rw [h]
    simp

theorem singleDots_iff (name : String) :
    SingleDots name ↔ ¬ ['.', '.'] <:+: name.toList.reverse :=
  have hreverse : ['.', '.'].reverse <:+: name.toList.reverse ↔ ['.', '.'] <:+: name.toList :=
    List.reverse_infix
  not_congr hreverse.symm

theorem mem_above {p name : String} :
    p ∈ above name ↔ p.toList.reverse ∈ beforeDots name.toList.reverse := by
  rw [above, List.mem_map]
  constructor
  · rintro ⟨part, hpart, rfl⟩
    simpa using hpart
  · exact fun h => ⟨_, h, by simp⟩

theorem standsAbove_of_mem {p name : String} (h : p ∈ above name) : StandsAbove p name :=
  standsAbove_iff.mpr (eq_append_of_mem_beforeDots (mem_above.mp h))

/-- **Of a name without two dots in a row, all names above it are listed.** -/
theorem mem_above_iff {p name : String} (h : SingleDots name) :
    p ∈ above name ↔ StandsAbove p name := by
  refine ⟨standsAbove_of_mem, fun hp => ?_⟩
  obtain ⟨hne, after, hname⟩ := standsAbove_iff.mp hp
  rw [singleDots_iff, hname] at h
  rw [mem_above, hname]
  exact mem_beforeDots hne after h

theorem not_mem_above_self (name : String) : name ∉ above name :=
  fun h => (length_lt_of_mem_above h).false

/-- The names above a name are listed from the longest to the shortest. -/
theorem pairwise_above (name : String) :
    (above name).Pairwise fun p p' => p'.length < p.length := by
  rw [above, List.pairwise_map]
  refine (pairwise_beforeDots _).imp fun h => ?_
  simpa using h

theorem StandsAbove.begins {p name : String} (h : StandsAbove p name) :
    p.toList <+: name.toList := by
  obtain ⟨-, rest, rfl⟩ := h
  rw [String.append_assoc, String.toList_append]
  exact List.prefix_append _ _

theorem SingleDots.of_mem_above {p name : String} (h : SingleDots name) (hp : p ∈ above name) :
    SingleDots p :=
  fun hdots => h (hdots.trans (standsAbove_of_mem hp).begins.isInfix)

/-- **Above a name stands nothing, or one name and what stands above that one.** -/
theorem above_cases {name : String} (h : SingleDots name) :
    above name = [] ∨ ∃ p, above name = p :: above p := by
  refine (beforeDots_cases ((singleDots_iff name).mp h)).imp (fun hnone => ?_) ?_
  · rw [above, hnone, List.map_nil]
  · rintro ⟨part, hpart⟩
    refine ⟨String.ofList part.reverse, ?_⟩
    rw [above, above, hpart, List.map_cons, String.toList_ofList, List.reverse_reverse]

/-- **Induction up the dots of a name**: what holds of names below nothing, and of a name when it
holds of the nearest name above it, holds of every name without two dots in a row. -/
@[elab_as_elim]
theorem SingleDots.ascend {P : String → Prop} (top : ∀ name, above name = [] → P name)
    (step : ∀ name p, above name = p :: above p → P p → P name) {name : String}
    (h : SingleDots name) : P name := by
  induction hn : name.length using Nat.strong_induction_on generalizing name with
  | _ n ih =>
    subst hn
    rcases above_cases h with hnone | ⟨p, hp⟩
    · exact top name hnone
    · have hmem : p ∈ above name := hp ▸ List.mem_cons_self
      exact step name p hp (ih _ (length_lt_of_mem_above hmem) (h.of_mem_above hmem) rfl)

theorem StandsAbove.trans {p q name : String} (hp : StandsAbove p q) (hq : StandsAbove q name) :
    StandsAbove p name := by
  obtain ⟨hne, rest, rfl⟩ := hp
  obtain ⟨-, more, rfl⟩ := hq
  refine ⟨hne, rest ++ "." ++ more, ?_⟩
  simp only [String.append_assoc]

/-- What stands above a name above another stands above that one. -/
theorem mem_above_trans {p q name : String} (h : SingleDots name) (hp : p ∈ above q)
    (hq : q ∈ above name) : p ∈ above name :=
  (mem_above_iff h).mpr ((standsAbove_of_mem hp).trans (standsAbove_of_mem hq))

theorem StandsAbove.length_lt {p name : String} (h : StandsAbove p name) :
    p.length < name.length := by
  obtain ⟨-, rest, rfl⟩ := h
  simp only [String.length_append]
  have : ".".length = 1 := rfl
  omega

theorem eq_or_standsAbove {p q : String} {between rest more : List Char} (hp : p ≠ "")
    (hq : q.toList = p.toList ++ between) (h : '.' :: rest = between ++ '.' :: more) :
    p = q ∨ StandsAbove p q := by
  rcases between with _ | ⟨c, between⟩
  · exact .inl (String.toList_inj.mp (by simpa using hq.symm))
  · obtain ⟨rfl, -⟩ := List.cons.inj h
    exact .inr ⟨hp, String.ofList between, String.toList_inj.mp (by simp [hq])⟩

/-- Of two names above a third, one stands above the other. -/
theorem StandsAbove.trichotomy {p q name : String} (hp : StandsAbove p name)
    (hq : StandsAbove q name) : p = q ∨ StandsAbove p q ∨ StandsAbove q p := by
  obtain ⟨hpne, rest, rfl⟩ := hp
  obtain ⟨hqne, more, h⟩ := hq
  have hchars : p.toList ++ '.' :: rest.toList = q.toList ++ '.' :: more.toList := by
    simpa using congrArg String.toList h
  rcases List.append_eq_append_iff.mp hchars with ⟨between, hq, h⟩ | ⟨between, hp, h⟩
  · exact (eq_or_standsAbove hpne hq h).imp_right .inl
  · exact (eq_or_standsAbove hqne hp h).imp Eq.symm .inr

/-! ## The root -/

theorem canonical_ne_iff {name : String} :
    canonical name ≠ rootName ↔ name ≠ "" ∧ name ≠ rootName := by
  unfold canonical
  split <;> simp_all

theorem canonical_of_ne {name : String} (h : canonical name ≠ rootName) : canonical name = name :=
  if_neg (canonical_ne_iff.mp h).1

theorem canonical_eq_iff {other name : String} (h : canonical name ≠ rootName) :
    canonical other = canonical name ↔ other = name := by
  rw [canonical_of_ne h]
  by_cases hother : canonical other = rootName
  · have hne : other ≠ name := fun heq => h (heq ▸ hother)
    rw [hother]
    exact iff_of_false (fun heq => (canonical_ne_iff.mp h).2 heq.symm) hne
  · rw [canonical_of_ne hother]

/-- Nothing stands above the root. -/
theorem above_rootName : above rootName = [] :=
  rfl

end PageSync.Log
