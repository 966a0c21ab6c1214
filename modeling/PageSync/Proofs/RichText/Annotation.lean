import Mathlib.Data.List.Basic
import PageSync.Proofs.Json.Fields
import PageSync.RichText.Annotation

/-!
# Proofs/RichText/Annotation — turning flags on

What overrides make of a record is known name by name: `overridden` says what becomes of one value,
and a record with overrides applied is that under each of its names (`lookup_overrideAll`).
Overrides act one after the other (`overridden_append`), yet what they come to depends only on the
entries that there are, not on their order or number (`overridden_congr`).  So to merge sets of
overrides in turn is a join (`merges_join`); the one thing that has no result is an override with
the name of the record itself.

`Lit on a b` says that the record `b` is the record `a` with some flags turned on and nothing else
changed.  Turning on one flag is an instance (`lit_withFlag`), and instances compose (`Lit.trans`),
so what several nodes do to a record is the union of what each does.
-/

namespace PageSync

namespace Annotations

/-- Whether a record has a name with a value that counts as true. -/
def isOn (a : Annotations) (name : String) : Bool :=
  (a.lookup name).any Json.truthy

/-! ## What overrides make of a value -/

/-- Whether some override turns a flag on. -/
def turnsOn (overrides : Fields) (name : String) : Bool :=
  overrides.any fun e => e.1 = name && e.2.truthy

theorem turnsOn_iff {overrides : Fields} {name : String} :
    turnsOn overrides name = true ↔ ∃ value, (name, value) ∈ overrides ∧ value.truthy = true := by
  simp [turnsOn]

theorem turnsOn_of_not_mem {overrides : Fields} {name : String}
    (h : name ∉ Fields.names overrides) : turnsOn overrides name = false := by
  refine Bool.eq_false_iff.mpr fun hon => ?_
  obtain ⟨value, hmem, -⟩ := turnsOn_iff.mp hon
  exact h (List.mem_map_of_mem hmem)

/-- **What overrides make of a value**: a flag that one of them names becomes a truth value, true if
the flag was on or one of them turns it on.  Any other value is left as it is. -/
def overridden (overrides : Fields) (name : String) (old : Json) : Json :=
  if name ∈ flags ∧ name ∈ Fields.names overrides then .bool (old.truthy || turnsOn overrides name)
  else old

theorem overridden_eq_id {overrides : Fields} {name : String}
    (h : name ∉ flags ∨ name ∉ Fields.names overrides) : overridden overrides name = id :=
  funext fun _ => if_neg (not_and_or.mpr h)

/-- A flag is on after overrides if it was, or one of them turns it on. -/
theorem truthy_overridden {name : String} (hname : name ∈ flags) (overrides : Fields) (old : Json) :
    (overridden overrides name old).truthy = (old.truthy || turnsOn overrides name) := by
  by_cases hmem : name ∈ Fields.names overrides
  · rw [overridden, if_pos ⟨hname, hmem⟩, Json.truthy]
  · rw [overridden_eq_id (.inr hmem), turnsOn_of_not_mem hmem, Bool.or_false, id]

/-- **Overrides act one after the other.** -/
theorem overridden_append (first more : Fields) (name : String) (old : Json) :
    overridden (first ++ more) name old = overridden more name (overridden first name old) := by
  by_cases hflag : name ∈ flags
  · have hnames : Fields.names (first ++ more) = Fields.names first ++ Fields.names more :=
      List.map_append
    have hon : turnsOn (first ++ more) name = (turnsOn first name || turnsOn more name) :=
      List.any_append
    by_cases hmore : name ∈ Fields.names more
    · rw [overridden, overridden, hnames, hon, if_pos ⟨hflag, List.mem_append_right _ hmore⟩,
        if_pos ⟨hflag, hmore⟩, truthy_overridden hflag, Bool.or_assoc]
    · rw [overridden_eq_id (.inr hmore), overridden, overridden, hnames, hon,
        turnsOn_of_not_mem hmore, Bool.or_false, id]
      simp only [List.mem_append, hmore, or_false]
  · simp only [overridden_eq_id (.inl hflag), id]

/-- **Only the entries count**, not their order and not how often they come. -/
theorem overridden_congr {overrides others : Fields} (h : ∀ e, e ∈ others ↔ e ∈ overrides)
    (name : String) : overridden others name = overridden overrides name := by
  have hon : turnsOn others name = turnsOn overrides name := by
    refine Bool.eq_iff_iff.mpr ?_
    simp only [turnsOn_iff, h]
  have hnames : name ∈ Fields.names others ↔ name ∈ Fields.names overrides := by
    simp only [Fields.names, List.mem_map, h]
  funext old
  simp only [overridden, hon, hnames]

/-! ## What overrides make of a record -/

/-- An override adds no name and loses none. -/
theorem names_override (base : Annotations) (name : String) (value : Json) :
    Fields.names (override base name value) = Fields.names base := by
  rw [override]
  split
  next old hold =>
    have present : name ∈ Fields.names base := Fields.exists_lookup_iff.mp ⟨old, hold⟩
    split
    · exact Fields.names_set base _ present
    · rfl
  next => rfl

/-- One override does to each value what it makes of it. -/
theorem lookup_override (base : Annotations) (name : String) (value : Json) (other : String) :
    (override base name value).lookup other =
      (base.lookup other).map (overridden [(name, value)] other) := by
  by_cases hother : other = name
  · subst hother
    rw [override]
    cases hold : base.lookup other with
    | none => exact hold
    | some old =>
      by_cases hflag : other ∈ flags
      · simp [hflag, Fields.lookup_set_self, overridden, Fields.names, turnsOn]
      · simp [hflag, hold, overridden_eq_id (.inl hflag)]
  · have unnamed : other ∉ Fields.names [(name, value)] := by simpa [Fields.names] using hother
    rw [overridden_eq_id (.inr unnamed), Option.map_id, override]
    split
    · split
      · exact Fields.lookup_set_of_ne base _ hother
      · rfl
    · rfl

theorem overrideAll_append (base : Annotations) (first more : Fields) :
    overrideAll base (first ++ more) = overrideAll (overrideAll base first) more :=
  List.foldl_append

theorem names_overrideAll (base : Annotations) (overrides : Fields) :
    Fields.names (overrideAll base overrides) = Fields.names base := by
  induction overrides generalizing base with
  | nil => rfl
  | cons e rest ih => exact (ih _).trans (names_override base e.1 e.2)

/-- **A record with overrides applied**, name by name. -/
theorem lookup_overrideAll (base : Annotations) (overrides : Fields) (name : String) :
    (overrideAll base overrides).lookup name =
      (base.lookup name).map (overridden overrides name) := by
  induction overrides generalizing base with
  | nil => rw [overridden_eq_id (.inr List.not_mem_nil), Option.map_id]; rfl
  | cons e rest ih =>
    have hstep : overrideAll base (e :: rest) = overrideAll (override base e.1 e.2) rest := rfl
    have happ : overridden rest name ∘ overridden [e] name = overridden (e :: rest) name :=
      funext fun old => (overridden_append [e] rest name old).symm
    rw [hstep, ih, lookup_override, Option.map_map, happ]

/-- A flag that a record has is on with overrides applied if it was on or one turns it on. -/
theorem isOn_overrideAll {base : Annotations} {name : String} (hname : name ∈ flags)
    (hbase : name ∈ Fields.names base) (overrides : Fields) :
    isOn (overrideAll base overrides) name = (isOn base name || turnsOn overrides name) := by
  obtain ⟨old, hold⟩ := Fields.exists_lookup_iff.mpr hbase
  simp only [isOn, lookup_overrideAll, hold, Option.map_some, Option.any_some,
    truthy_overridden hname]

/-! ## Merging in turn -/

theorem merge_of_not_mem (base : Annotations) {overrides : Fields}
    (h : recordName ∉ Fields.names overrides) :
    merge base overrides = .ok (overrideAll base overrides) := by
  rw [merge, if_neg (mt (Fields.has_iff_mem_names _ _).mp h)]

theorem merge_of_mem (base : Annotations) {overrides : Fields}
    (h : recordName ∈ Fields.names overrides) : merge base overrides = .error .wrongShape := by
  rw [merge, if_pos ((Fields.has_iff_mem_names _ _).mpr h)]

/-- **To merge in turn is to apply all overrides**, as long as none has the name of the record. -/
theorem foldlM_merge (base : Annotations) {overrides : List Fields}
    (h : ∀ o ∈ overrides, recordName ∉ Fields.names o) :
    overrides.foldlM merge base = .ok (overrideAll base overrides.flatten) := by
  induction overrides generalizing base with
  | nil => rfl
  | cons o rest ih =>
    obtain ⟨ho, hrest⟩ := List.forall_mem_cons.mp h
    rw [List.foldlM_cons, merge_of_not_mem base ho, List.flatten_cons, overrideAll_append]
    exact ih _ hrest

/-- An override with the name of the record ends the merging. -/
theorem foldlM_merge_refused (base : Annotations) {overrides : List Fields}
    (h : ∃ o ∈ overrides, recordName ∈ Fields.names o) :
    overrides.foldlM merge base = .error .wrongShape := by
  induction overrides generalizing base with
  | nil => simp at h
  | cons o rest ih =>
    rw [List.foldlM_cons]
    by_cases ho : recordName ∈ Fields.names o
    · rw [merge_of_mem base ho]
      rfl
    · rw [merge_of_not_mem base ho]
      exact ih _ ((List.exists_mem_cons_iff ..).mp h |>.resolve_left ho)

/-- **A record is the join of another with sets of overrides**: it has the same names in the same
order; a flag is on if it was on or some override turns it on, and is a truth value once an override
names it; what is no flag, or is named by no override, is as it was. -/
structure IsJoin (base : Annotations) (overrides : List Fields) (merged : Annotations) : Prop where
  names : Fields.names merged = Fields.names base
  flag : ∀ name ∈ flags, name ∈ Fields.names base →
    (merged.isOn name ↔ base.isOn name ∨ ∃ o ∈ overrides, ∃ v, (name, v) ∈ o ∧ v.truthy)
  named : ∀ name ∈ flags, name ∈ Fields.names base → (∃ o ∈ overrides, name ∈ Fields.names o) →
    ∃ b, merged.lookup name = some (.bool b)
  kept : ∀ name, (name ∉ flags ∨ ∀ o ∈ overrides, name ∉ Fields.names o) →
    merged.lookup name = base.lookup name

theorem mem_names_flatten {overrides : List Fields} {name : String} :
    name ∈ Fields.names overrides.flatten ↔ ∃ o ∈ overrides, name ∈ Fields.names o := by
  simp only [Fields.names, List.map_flatten, List.mem_flatten, List.mem_map,
    exists_exists_and_eq_and]

theorem turnsOn_flatten {overrides : List Fields} {name : String} :
    turnsOn overrides.flatten name = true ↔
      ∃ o ∈ overrides, ∃ v, (name, v) ∈ o ∧ v.truthy = true := by
  rw [turnsOn, List.any_flatten, List.any_eq_true]
  exact exists_congr fun o => and_congr_right fun _ => turnsOn_iff

theorem isJoin_overrideAll (base : Annotations) (overrides : List Fields) :
    IsJoin base overrides (overrideAll base overrides.flatten) where
  names := names_overrideAll base overrides.flatten
  flag name hname hbase := by
    rw [isOn_overrideAll hname hbase, Bool.or_eq_true, turnsOn_flatten]
  named name hname hbase hnamed := by
    obtain ⟨old, hold⟩ := Fields.exists_lookup_iff.mpr hbase
    rw [lookup_overrideAll, hold, Option.map_some, overridden,
      if_pos ⟨hname, mem_names_flatten.mpr hnamed⟩]
    exact ⟨_, rfl⟩
  kept name h := by
    have hid : name ∉ flags ∨ name ∉ Fields.names overrides.flatten := by
      refine h.imp_right fun unnamed hmem => ?_
      obtain ⟨o, ho, hname⟩ := mem_names_flatten.mp hmem
      exact unnamed o ho hname
    rw [lookup_overrideAll, overridden_eq_id hid, Option.map_id, id]

/-- What was on is on in a join. -/
theorem IsJoin.isOn {base merged : Annotations} {overrides : List Fields}
    (h : IsJoin base overrides merged) {name : String} (hon : base.isOn name) :
    merged.isOn name := by
  by_cases hname : name ∈ flags
  · obtain ⟨old, hold, -⟩ := (Option.any_eq_true _ _).mp hon
    have hbase : name ∈ Fields.names base := Fields.exists_lookup_iff.mp ⟨old, hold⟩
    exact (h.flag name hname hbase).mpr (.inl hon)
  · rwa [Annotations.isOn, h.kept name (.inl hname)]

/-- **Merging in turn is an order-free join.**  An override with the name of the record is refused,
and nothing else is: without one the merging ends with the join of the record with all overrides.
What was on stays on; and the same sets of overrides in another order, or some of them again, give
every name the same value. -/
theorem merges_join (base : Annotations) (overrides : List Fields) :
    ((∃ o ∈ overrides, recordName ∈ Fields.names o) →
      overrides.foldlM merge base = .error .wrongShape) ∧
    ((∀ o ∈ overrides, recordName ∉ Fields.names o) →
      ∃ merged, overrides.foldlM merge base = .ok merged ∧ IsJoin base overrides merged ∧
        (∀ name, base.isOn name → merged.isOn name) ∧
        ∀ others : List Fields, (∀ o, o ∈ others ↔ o ∈ overrides) →
          ∃ again, others.foldlM merge base = .ok again ∧
            ∀ name, again.lookup name = merged.lookup name) := by
  refine ⟨foldlM_merge_refused base, fun hfree => ?_⟩
  have join := isJoin_overrideAll base overrides
  refine ⟨_, foldlM_merge base hfree, join, fun name => join.isOn, fun others hsame => ?_⟩
  have hentries : ∀ e, e ∈ others.flatten ↔ e ∈ overrides.flatten := by
    simp only [List.mem_flatten, hsame, implies_true]
  refine ⟨_, foldlM_merge base fun o ho => hfree o ((hsame o).mp ho), fun name => ?_⟩
  rw [lookup_overrideAll, lookup_overrideAll, overridden_congr hentries]

/-- A value that counts as true turns a flag on for good, and an unknown name does nothing. -/
example :
    [[("bold", Json.int 1)], [("bold", .null), ("glow", .bool true)]].foldlM merge plain
      = .ok (plain.withFlag "bold") := rfl

/-- **The name of the record itself is no override**: a sequence that has it comes to no join. -/
theorem own_name_not_merged :
    ¬ ∃ merged, [[("base", Json.bool true)]].foldlM merge plain = .ok merged ∧
      IsJoin plain [[("base", .bool true)]] merged := by
  rintro ⟨merged, hmerged, -⟩
  have refused : [[("base", Json.bool true)]].foldlM merge plain = .error .wrongShape := rfl
  rw [refused] at hmerged
  cases hmerged

/-! ## Turning flags on -/

/-- **One record is another with some flags turned on**: it has the same names in the same order, a
flag is on when it was or is turned on, and what is not turned on is as it was. -/
structure Lit (on : String → Prop) (a b : Annotations) : Prop where
  names : Fields.names b = Fields.names a
  flag : ∀ name ∈ Fields.names a, b.isOn name ↔ a.isOn name ∨ on name
  kept : ∀ name, ¬ on name → b.lookup name = a.lookup name

namespace Lit

variable {on on' : String → Prop} {a b c : Annotations}

theorem refl (a : Annotations) (none_on : ∀ name, ¬ on name) : Lit on a a :=
  ⟨rfl, fun name _ => (or_iff_left (none_on name)).symm, fun _ _ => rfl⟩

theorem trans (hab : Lit on a b) (hbc : Lit on' b c) :
    Lit (fun name => on name ∨ on' name) a c where
  names := hbc.names.trans hab.names
  flag name hname := by
    rw [hbc.flag name (hab.names ▸ hname), hab.flag name hname, or_assoc]
  kept name h := by
    obtain ⟨h, h'⟩ := not_or.mp h
    rw [hbc.kept name h', hab.kept name h]

theorem congr (h : Lit on a b) (same : ∀ name, on name ↔ on' name) : Lit on' a b :=
  (funext fun name => propext (same name) : on = on') ▸ h

end Lit

/-- **Turning on one flag** turns on this flag. -/
theorem lit_withFlag (a : Annotations) {flag : String} (hflag : flag ∈ flags) :
    Lit (· = flag) a (a.withFlag flag) := by
  have kept : ∀ name, name ≠ flag → (a.withFlag flag).lookup name = a.lookup name := by
    intro name hne
    have unnamed : name ∉ Fields.names [(flag, Json.bool true)] := by simpa [Fields.names] using hne
    rw [withFlag, lookup_override, overridden_eq_id (.inr unnamed), Option.map_id, id]
  refine ⟨names_override a flag _, fun name hname => ?_, kept⟩
  by_cases heq : name = flag
  · subst heq
    have hon := isOn_overrideAll hflag hname [(name, Json.bool true)]
    have hturns : turnsOn [(name, Json.bool true)] name = true :=
      turnsOn_iff.mpr ⟨_, List.mem_singleton_self _, rfl⟩
    rw [hturns, Bool.or_true] at hon
    exact iff_of_true hon (.inr rfl)
  · rw [isOn, kept name heq]
    exact (or_iff_left heq).symm

end Annotations

end PageSync
