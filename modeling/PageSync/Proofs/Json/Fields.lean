import PageSync.Json.Basic

/-!
# Proofs/Json/Fields — what setting a name does to an object

A name that is not there comes behind the others (`set_of_not_mem`), and one that is there gets its
value in its place (`set_of_mem`, `names_set`).  So entries of different names, written one after
the other, are the object that they are (`ofEntries_of_nodup`).
-/

namespace PageSync.Fields

theorem has_iff_mem_names (fields : Fields) (name : String) :
    fields.has name = true ↔ name ∈ fields.names := by
  rw [has, Option.isSome_iff_ne_none, Ne, List.lookup_eq_none_iff]
  simp [names]

/-- The names of an object are those that it has a value for. -/
theorem exists_lookup_iff {fields : Fields} {name : String} :
    (∃ value, fields.lookup name = some value) ↔ name ∈ fields.names :=
  Option.isSome_iff_exists.symm.trans (has_iff_mem_names fields name)

/-- A new name comes behind the others. -/
theorem set_of_not_mem : ∀ {fields : Fields} {name : String} (v : Json), name ∉ fields.names →
    fields.set name v = fields ++ [(name, v)]
  | [], _, _, _ => rfl
  | (k, w) :: rest, name, v, h => by
      obtain ⟨hk, hrest⟩ := not_or.mp (mt List.mem_cons.mpr h)
      rw [set, if_neg (Ne.symm hk), set_of_not_mem v hrest, List.cons_append]

/-- Entries without a name are not changed by a change under that name. -/
theorem map_of_not_mem {fields : Fields} {name : String} (h : name ∉ fields.names)
    (f : Json → Json) :
    fields.map (fun e => (e.1, if e.1 = name then f e.2 else e.2)) = fields := by
  have hother : ∀ e ∈ fields, (e.1, if e.1 = name then f e.2 else e.2) = e := by
    intro e he
    have hne : e.1 ≠ name := fun heq => h (heq ▸ List.mem_map_of_mem he)
    rw [if_neg hne]
  rw [List.map_congr_left hother, List.map_id']

/-- A name that is there gets its value in its place. -/
theorem set_of_mem : ∀ {fields : Fields} {name : String} (v : Json), fields.names.Nodup →
    name ∈ fields.names →
    fields.set name v = fields.map fun e => (e.1, if e.1 = name then v else e.2)
  | [], _, _, _, hmem => absurd hmem List.not_mem_nil
  | (k, w) :: rest, name, v, hn, hmem => by
      obtain ⟨hk, hrest⟩ := List.nodup_cons.mp hn
      rw [set, List.map_cons]
      split
      next heq => rw [map_of_not_mem (heq ▸ hk) fun _ => v]
      next hne =>
        have hmem := (List.mem_cons.mp hmem).resolve_left (Ne.symm hne)
        rw [set_of_mem v hrest hmem]

/-- A name that is present keeps its place. -/
theorem names_set : ∀ (fields : Fields) {name : String} (v : Json), name ∈ fields.names →
    (fields.set name v).names = fields.names
  | [], _, _, h => absurd h List.not_mem_nil
  | (k, w) :: rest, name, v, h => by
      rw [set]
      split
      · rfl
      next hk =>
        have hrest : name ∈ Fields.names rest := (List.mem_cons.mp h).resolve_left (Ne.symm hk)
        exact congrArg (k :: ·) (names_set rest v hrest)

/-- Entries of new names come behind the others. -/
theorem setAll_of_nodup : ∀ (more fields : Fields), (names (fields ++ more)).Nodup →
    setAll fields more = fields ++ more
  | [], fields, _ => (List.append_nil fields).symm
  | (k, v) :: rest, fields, h => by
      rw [List.append_cons] at h ⊢
      have hk : k ∉ fields.names := by
        rw [names, List.map_append, List.map_append] at h
        have happart := (List.nodup_append.mp (List.nodup_append.mp h).1).2.2
        exact fun hmem => happart k hmem k (by simp) rfl
      rw [← setAll_of_nodup rest (fields ++ [(k, v)]) h, ← set_of_not_mem v hk]
      rfl

/-- **Entries of different names are an object as they are.** -/
theorem ofEntries_of_nodup {fields : Fields} (h : fields.names.Nodup) : ofEntries fields = fields :=
  setAll_of_nodup fields [] h

end PageSync.Fields
