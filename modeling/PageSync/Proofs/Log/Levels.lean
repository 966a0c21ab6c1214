import PageSync.Proofs.Log.Tree

/-!
# Proofs/Log/Levels — the level that counts for a logger

`Counts` says it by dots: the level of the logger itself or, where that is `0`, of the nearest name
above with another one, the root having `warning`.  There is one such level (`Counts.unique`), and
going up all names above a name finds it (`counts_firstLevel`).  The loggers themselves are walked
along the tree, which leaves out names that have not been made; these have level `0`, so for a name
that keeps its way up both walks find the same (`firstLevel_lineage`).
-/

namespace PageSync.Log

namespace Registry

/-- **The level that counts for a logger**, by the dots of its name. -/
inductive Counts (r : Registry) (name : String) : Int → Prop where
  | own (h : (r.logger name).level ≠ 0) : Counts r name (r.logger name).level
  | inherited {p : String} (h : (r.logger name).level = 0) (stands : StandsAbove p name)
      (hp : (r.logger p).level ≠ 0)
      (nearest : ∀ q, StandsAbove p q → StandsAbove q name → (r.logger q).level = 0) :
      Counts r name (r.logger p).level
  | root (h : (r.logger name).level = 0)
      (silent : ∀ p, StandsAbove p name → (r.logger p).level = 0) : Counts r name warning

variable {r : Registry} {name : String}

theorem Counts.unique {e e' : Int} (h : r.Counts name e) (h' : r.Counts name e') : e = e' := by
  cases h with
  | own h =>
    cases h' with
    | own => rfl
    | inherited h' => exact absurd h' h
    | root h' => exact absurd h' h
  | @inherited p h habove hp hnearest =>
    cases h' with
    | own h' => exact absurd h h'
    | @inherited p' _ habove' hp' hnearest' =>
      rcases habove.trichotomy habove' with rfl | hlower | hupper
      · rfl
      · exact absurd (hnearest p' hlower habove') hp'
      · exact absurd (hnearest' p hupper habove) hp
    | root _ hnone => exact absurd (hnone p habove) hp
  | root h hnone =>
    cases h' with
    | own h' => exact absurd h h'
    | inherited _ habove hp => exact absurd (hnone _ habove) hp
    | root => rfl

/-! ## Going up the names above -/

theorem firstLevel_cons (r : Registry) (n : String) (names : List String) :
    r.firstLevel (n :: names) =
      if (r.logger n).level = 0 then r.firstLevel names else (r.logger n).level := by
  unfold firstLevel
  by_cases h : (r.logger n).level = 0 <;> simp [h]

theorem firstLevel_eq (r : Registry) (names : List String) :
    r.firstLevel names =
      ((names.find? fun n => (r.logger n).level ≠ 0).map fun n => (r.logger n).level).getD 0 := by
  rw [firstLevel, List.find?_map]
  rfl

/-- The first level that is not `0` going up all names above a name is the one that counts. -/
theorem counts_firstLevel (hdots : SingleDots name) (hroot : r.logger rootName = .root) :
    r.Counts name (r.firstLevel (name :: (above name ++ [rootName]))) := by
  rw [firstLevel_cons]
  split
  case isFalse hne => exact .own hne
  case isTrue hzero =>
    rw [firstLevel_eq, List.find?_append]
    cases hfind : (above name).find? fun n => (r.logger n).level ≠ 0 with
    | none =>
      have hnone : ∀ p, StandsAbove p name → (r.logger p).level = 0 := fun p hp => by
        simpa using List.find?_eq_none.mp hfind p ((mem_above_iff hdots).mpr hp)
      simpa [hroot, Logger.root, warning] using Counts.root hzero hnone
    | some p =>
      obtain ⟨hp, near, far, hsplit, hnear⟩ := List.find?_eq_some_iff_append.mp hfind
      have hpabove : StandsAbove p name := standsAbove_of_mem (hsplit ▸ by simp)
      refine .inherited hzero hpabove (by simpa using hp) fun q hpq hq => ?_
      -- a name between the two is longer than `p`, so it is listed before it
      have hlt := hpq.length_lt
      have hmem : q ∈ near ++ p :: far := hsplit ▸ (mem_above_iff hdots).mpr hq
      have hsorted := (List.pairwise_append.mp (hsplit ▸ pairwise_above name)).2.1
      rcases List.mem_append.mp hmem with hq | hq
      · simpa using hnear q hq
      · rcases List.mem_cons.mp hq with rfl | hq
        · exact absurd hlt (Nat.lt_irrefl _)
        · exact absurd (List.rel_of_pairwise_cons hsorted hq) (Nat.lt_asymm hlt)

/-! ## Going up the tree -/

/-- Loggers that have not been made are blank, and the root is as it was at the start. -/
structure Settled (r : Registry) : Prop where
  root : r.logger rootName = .root
  blank : ∀ n, canonical n ≠ rootName → r.isMade n = false → r.logger n = .blank

/-- Going up from a name, what has not been made does not matter. -/
theorem firstLevel_above (h : r.Settled) (hdots : SingleDots name) :
    r.firstLevel (above name ++ [rootName]) =
      ((above name).find? r.isMade).elim warning fun p =>
        r.firstLevel (p :: (above p ++ [rootName])) := by
  have hroot : r.firstLevel [rootName] = warning := by
    rw [firstLevel_cons, h.root, if_neg (by decide)]
    rfl
  refine SingleDots.ascend (fun name hnone => ?_) (fun name p hp ih => ?_) hdots
  · rw [hnone, List.nil_append, hroot]
    rfl
  · rw [hp, List.find?_cons]
    have hpabove : p ∈ above name := hp ▸ List.mem_cons_self
    cases hmade : r.isMade p with
    | true => rfl
    | false =>
      by_cases hproot : p = rootName
      · -- the root is no logger of the tree, and nothing stands above it
        subst hproot
        rw [above_rootName, List.cons_append, firstLevel_cons, h.root]
        rfl
      · have hcanonical := canonical_ne_iff.mpr ⟨(standsAbove_of_mem hpabove).1, hproot⟩
        have hblank := h.blank p hcanonical hmade
        rw [List.cons_append, firstLevel_cons, hblank]
        exact ih

/-- **Along the tree and along the dots the same level counts**, for a name that keeps its way
up. -/
theorem firstLevel_lineage {asked : List String} (hgrown : Grown asked r) (h : r.Settled)
    (hroot : ∀ n ∈ asked, canonical n ≠ rootName) (hname : name ∈ asked)
    (horderly : Orderly asked name) :
    r.firstLevel (r.lineage name) = r.firstLevel (name :: (above name ++ [rootName])) := by
  have hparent := hgrown.parent name hname horderly
  fun_induction r.lineage name with
  | case1 name p hp ih =>
    have hfind : (above name).find? r.isMade = some p := hparent.symm.trans hp
    have hpabove := List.mem_of_find?_eq_some hfind
    have hpasked := (hgrown.isMade_iff p).mp (List.find?_some hfind)
    have hporderly := horderly.up hpabove
    rw [firstLevel_cons, firstLevel_cons, ih hpasked hporderly (hgrown.parent p hpasked hporderly),
      firstLevel_above h horderly.dots, hfind]
    rfl
  | case2 hnone => exact absurd rfl (hroot _ hname)
  | case3 name hnone hne =>
    rw [firstLevel_cons, firstLevel_cons r name, firstLevel_above h horderly.dots, ← hparent, hnone,
      firstLevel_cons, h.root]
    rfl

end Registry

end PageSync.Log
