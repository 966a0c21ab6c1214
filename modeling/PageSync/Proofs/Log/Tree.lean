import Mathlib.Data.List.Find
import PageSync.Proofs.Log.Names

/-!
# Proofs/Log/Tree — where loggers hang

A logger that has been made should hang below the nearest one above it that has been made, whatever
the order in which they were asked for.  It does unless its name has two dots in a row, or a name
above it was asked for later and `root` begins with that name: such a logger takes no others over
from the root.  `Orderly` says that neither is the case, and under it a new logger takes over what
`find?_above_made` says.  `Grown.made` keeps the tree so from one request to the next.
-/

namespace PageSync.Log

/-! ## Names that keep their way up -/

/-- **A name keeps its way up**, when names are asked for in some order: it has no two dots in a
row, and of two names on its way up the upper one is asked for first where `root` begins with it. -/
structure Orderly (asked : List String) (name : String) : Prop where
  dots : SingleDots name
  inTurn : ∀ q ∈ name :: above name, ∀ p ∈ above q, p.toList <+: rootName.toList →
    p ∈ asked → asked.idxOf p < asked.idxOf q

instance (asked : List String) (name : String) : Decidable (Orderly asked name) :=
  decidable_of_iff (SingleDots name ∧ ∀ q ∈ name :: above name, ∀ p ∈ above q,
    p.toList <+: rootName.toList → p ∈ asked → asked.idxOf p < asked.idxOf q)
    ⟨fun ⟨dots, inTurn⟩ => ⟨dots, inTurn⟩, fun ⟨dots, inTurn⟩ => ⟨dots, inTurn⟩⟩

variable {asked : List String} {name : String}

/-- What is asked for later does not matter. -/
theorem Orderly.earlier {last : String} (h : Orderly (asked ++ [last]) name) :
    Orderly asked name where
  dots := h.dots
  inTurn q hq p hp hbegins hasked := by
    have hlt := h.inTurn q hq p hp hbegins (List.mem_append_left _ hasked)
    rw [List.idxOf_append_of_mem hasked] at hlt
    by_cases hqasked : q ∈ asked
    · rwa [List.idxOf_append_of_mem hqasked] at hlt
    · rw [List.idxOf_eq_length hqasked]
      exact List.idxOf_lt_length_of_mem hasked

theorem Orderly.up {p : String} (h : Orderly asked name) (hp : p ∈ above name) :
    Orderly asked p where
  dots := h.dots.of_mem_above hp
  inTurn q hq := h.inTurn q <| List.mem_cons_of_mem _ <| by
    rcases List.mem_cons.mp hq with rfl | hq
    · exact hp
    · exact mem_above_trans h.dots hq hp

/-- The last name that is asked for, when it is new and stands above one of the others. -/
theorem Orderly.not_begins {last : String} (h : Orderly (asked ++ [last]) name)
    (hname : name ∈ asked) (hnew : last ∉ asked) (hlast : last ∈ above name) :
    ¬ last.toList <+: rootName.toList := by
  intro hbegins
  have hlt := h.inTurn name List.mem_cons_self last hlast hbegins (by simp)
  rw [List.idxOf_append_of_mem hname, List.idxOf_append_of_notMem hnew] at hlt
  have := List.idxOf_lt_length_of_mem hname
  omega

namespace Registry

variable {r : Registry}

/-! ## A new logger -/

@[simp] theorem adoptedBy_name (place : Place) (name : String) :
    (place.adoptedBy name).name = place.name := by
  unfold Place.adoptedBy
  split <;> rfl

theorem adoptedBy_parent (place : Place) (name : String) :
    (place.adoptedBy name).parent =
      if name ∈ above place.name ∧ ¬ name.toList <+: (place.parent.getD rootName).toList then
        some name
      else place.parent := by
  unfold Place.adoptedBy
  split <;> rfl

theorem made_of_isMade (h : r.isMade name) : r.made name = r := by
  simp [made, h]

theorem tree_made (hroot : canonical name ≠ rootName) (hnew : r.isMade name = false) :
    (r.made name).tree = r.newPlace name :: r.tree.map (·.adoptedBy name) := by
  simp [made, hroot, hnew]

theorem place?_made (hroot : canonical name ≠ rootName) (hnew : r.isMade name = false)
    (n : String) :
    (r.made name).place? n =
      if n = name then some (r.newPlace name) else (r.place? n).map (·.adoptedBy name) := by
  rw [place?, tree_made hroot hnew, List.find?_cons, List.find?_map]
  by_cases hn : n = name
  · simp [hn, newPlace]
  · simp [hn, newPlace, Ne.symm hn, place?]

/-- Asking for a logger makes it, and no other. -/
theorem isMade_made (hroot : canonical name ≠ rootName) (n : String) :
    (r.made name).isMade n = (n = name || r.isMade n) := by
  cases hnew : r.isMade name with
  | true =>
    rw [made_of_isMade hnew]
    by_cases hn : n = name <;> simp [hn, hnew]
  | false =>
    rw [isMade, place?_made hroot hnew]
    by_cases hn : n = name <;> simp [hn, isMade]

/-- Among other names, the first that has been made is the same as before. -/
theorem find?_made_of_notMem {names : List String} (hroot : canonical name ≠ rootName)
    (h : name ∉ names) : names.find? (r.made name).isMade = names.find? r.isMade := by
  refine List.find?_congr fun n hn => ?_
  have hne : n ≠ name := fun heq => h (heq ▸ hn)
  simp [isMade_made hroot, hne]

theorem parent?_made_self (hroot : canonical name ≠ rootName) (hnew : r.isMade name = false) :
    (r.made name).parent? name = (above name).find? r.isMade := by
  rw [parent?, place?_made hroot hnew, if_pos rfl, Option.bind_some, newPlace]

theorem parent?_made_of_ne {n : String} (hroot : canonical name ≠ rootName)
    (hnew : r.isMade name = false) (hn : r.isMade n) (hne : n ≠ name) :
    (r.made name).parent? n =
      if name ∈ above n ∧ ¬ name.toList <+: ((r.parent? n).getD rootName).toList then some name
      else r.parent? n := by
  obtain ⟨place, hplace⟩ := Option.isSome_iff_exists.mp hn
  have hname : place.name = n := by simpa using List.find?_some hplace
  rw [parent?, parent?, place?_made hroot hnew, if_neg hne, hplace, Option.map_some,
    Option.bind_some, Option.bind_some, adoptedBy_parent, hname]

/-- **What a new logger takes over**: of a name below it, the nearest one above that has been made
is the new one, unless the one before begins with the new name. -/
theorem find?_above_made {c : String} (hroot : canonical name ≠ rootName)
    (hnew : r.isMade name = false) (hbegins : ¬ name.toList <+: rootName.toList)
    (hdots : SingleDots c) (hname : name ∈ above c) :
    (above c).find? (r.made name).isMade =
      if name.toList <+: (((above c).find? r.isMade).getD rootName).toList then
        (above c).find? r.isMade
      else some name := by
  refine SingleDots.ascend (fun c hnone hname => ?_) (fun c p hp ih hname => ?_) hdots hname
  · simp [hnone] at hname
  · rw [hp, List.find?_cons, List.find?_cons, isMade_made hroot]
    rcases List.mem_cons.mp (hp ▸ hname) with rfl | hname
    · -- the new logger is the nearest one, so the one before stands further up and is shorter
      have hfar : ¬ name.toList <+: (((above name).find? r.isMade).getD rootName).toList := by
        cases hfind : (above name).find? r.isMade with
        | none => exact hbegins
        | some q =>
          intro hlong
          have hlt := length_lt_of_mem_above (List.mem_of_find?_eq_some hfind)
          have hle := hlong.length_le
          simp only [Option.getD_some, String.length_toList] at hle
          omega
      simp [hnew, hfar]
    · have hne : p ≠ name := fun h => not_mem_above_self p (h ▸ hname)
      cases hmade : r.isMade p with
      | true => simp [(standsAbove_of_mem hname).begins]
      | false => simpa [hne] using ih hname

/-! ## The tree along requests -/

/-- **The tree is what asking for some names makes it**: their loggers are there, and each that
keeps its way up hangs below the nearest one above it that is there. -/
structure Grown (asked : List String) (r : Registry) : Prop where
  isMade_iff : ∀ n, r.isMade n ↔ n ∈ asked
  parent : ∀ n ∈ asked, Orderly asked n → r.parent? n = (above n).find? r.isMade

theorem grown_empty : Grown [] empty where
  isMade_iff n := by simp [isMade, place?, empty]
  parent n hn := absurd hn List.not_mem_nil

/-- Only the tree matters. -/
theorem Grown.congr {r' : Registry} (h : Grown asked r) (htree : r'.tree = r.tree) :
    Grown asked r' := by
  have hplace (n : String) : r'.place? n = r.place? n := by rw [place?, place?, htree]
  have hmade : r'.isMade = r.isMade := funext fun n => by rw [isMade, isMade, hplace]
  refine ⟨fun n => ?_, fun n hn horderly => ?_⟩
  · rw [hmade]
    exact h.isMade_iff n
  · rw [hmade, parent?, hplace]
    exact h.parent n hn horderly

/-- **Asking for one more logger** keeps the tree as it should be. -/
theorem Grown.made (h : Grown asked r) (hroot : canonical name ≠ rootName) :
    Grown (asked ++ [name]) (r.made name) where
  isMade_iff n := by
    rw [isMade_made hroot]
    simp [h.isMade_iff, or_comm]
  parent n hn horderly := by
    have hbefore : n ∈ asked ∨ n = name := by simpa using hn
    cases hnew : r.isMade name with
    | true =>
      have hn : n ∈ asked := hbefore.elim id fun heq => heq ▸ (h.isMade_iff name).mp hnew
      rw [made_of_isMade hnew]
      exact h.parent n hn horderly.earlier
    | false =>
      by_cases hself : n = name
      · subst hself
        rw [parent?_made_self hroot hnew, find?_made_of_notMem hroot (not_mem_above_self n)]
      · have hn : n ∈ asked := hbefore.resolve_right hself
        rw [parent?_made_of_ne hroot hnew ((h.isMade_iff n).mpr hn) hself,
          h.parent n hn horderly.earlier]
        by_cases habove : name ∈ above n
        · have hfresh : name ∉ asked := fun hmem => by simp [(h.isMade_iff name).mpr hmem] at hnew
          have hbegins := horderly.not_begins hn hfresh habove
          rw [find?_above_made hroot hnew hbegins horderly.dots habove]
          simp [habove, ite_not]
        · rw [if_neg fun hcond => habove hcond.1, find?_made_of_notMem hroot habove]

end Registry

end PageSync.Log
