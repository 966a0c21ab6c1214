import PageSync.Json.Basic

/-!
# Proofs/Json/Parts — what stands inside a value

The parts of a value are the items of an array and the values of an object.  `Json.fromParts` is
induction along them, and `Json.Holds` says that a value is another or stands somewhere inside it.
`Json.entries` lists the entries of all objects inside a value, or of those that can be reached
through certain names.
-/

namespace PageSync.Json

/-- The values directly inside a value. -/
def parts : Json → List Json
  | .arr items => items
  | .obj fields => fields.map (·.2)
  | _ => []

mutual

/-- **Induction over values**: what holds of a value when it holds of its parts holds of every
value. -/
@[elab_as_elim]
theorem fromParts {P : Json → Prop} (step : ∀ j : Json, (∀ k ∈ j.parts, P k) → P j) : ∀ j, P j
  | .arr items => step _ (fromItems step items)
  | .obj fields => step _ (fromFields step fields)
  | .null | .bool _ | .int _ | .float _ | .str _ => step _ fun _ hk => absurd hk List.not_mem_nil

/-- The items of an array, by induction over each of them. -/
theorem fromItems {P : Json → Prop} (step : ∀ j : Json, (∀ k ∈ j.parts, P k) → P j) :
    ∀ items : List Json, ∀ k ∈ items, P k
  | [] => fun _ hk => absurd hk List.not_mem_nil
  | j :: rest => List.forall_mem_cons.mpr ⟨fromParts step j, fromItems step rest⟩

/-- The values of an object, by induction over each of them. -/
theorem fromFields {P : Json → Prop} (step : ∀ j : Json, (∀ k ∈ j.parts, P k) → P j) :
    ∀ fields : Fields, ∀ k ∈ fields.map (·.2), P k
  | [] => fun _ hk => absurd hk List.not_mem_nil
  | (_, j) :: rest => List.forall_mem_cons.mpr ⟨fromParts step j, fromFields step rest⟩

end

/-- A value is another, or stands inside it. -/
inductive Holds : Json → Json → Prop
  | self (j : Json) : Holds j j
  | part {j k l : Json} (hk : k ∈ j.parts) (h : Holds k l) : Holds j l

/-! ## Entries -/

mutual

/-- **The entries of the objects in a value**, at any depth and in document order.  A value is
entered only under a name that admits it; the items of an array always are. -/
def entries (admits : String → Bool) : Json → Fields
  | .arr items => entriesOfItems admits items
  | .obj fields => entriesOfFields admits fields
  | _ => []

/-- The entries in the items of an array. -/
def entriesOfItems (admits : String → Bool) : List Json → Fields
  | [] => []
  | j :: rest => entries admits j ++ entriesOfItems admits rest

/-- The entries of an object, each followed by those in its value. -/
def entriesOfFields (admits : String → Bool) : List (String × Json) → Fields
  | [] => []
  | (name, j) :: rest =>
    (name, j) :: ((if admits name then entries admits j else []) ++ entriesOfFields admits rest)

end

variable {admits : String → Bool}

theorem entries_arr (items : List Json) :
    (arr items).entries admits = items.flatMap (entries admits) := by
  rw [entries]
  induction items with
  | nil => rfl
  | cons j rest ih => rw [entriesOfItems, ih, List.flatMap_cons]

theorem entries_obj (fields : Fields) :
    (obj fields).entries admits =
      fields.flatMap fun e => e :: if admits e.1 then e.2.entries admits else [] := by
  rw [entries]
  induction fields with
  | nil => rfl
  | cons e rest ih => rw [entriesOfFields, ih, List.flatMap_cons, List.cons_append]

/-- An entry stands in the value itself, when that is an object, or in one of its parts. -/
theorem mem_entries_cases (j : Json) (e : String × Json) :
    e ∈ j.entries (fun _ => true) ↔
      (∃ fields, j = .obj fields ∧ e ∈ fields) ∨ ∃ k ∈ j.parts, e ∈ k.entries fun _ => true := by
  cases j with
  | arr items => simp [entries_arr, parts]
  | obj fields =>
    rw [entries_obj]
    constructor
    · intro he
      obtain ⟨f, hf, he⟩ := List.mem_flatMap.mp he
      rcases List.mem_cons.mp he with rfl | he
      · exact .inl ⟨fields, rfl, hf⟩
      · exact .inr ⟨f.2, List.mem_map_of_mem hf, he⟩
    · rintro (⟨_, ⟨⟩, he⟩ | ⟨_, hk, he⟩)
      · exact List.mem_flatMap.mpr ⟨e, he, List.mem_cons_self⟩
      · obtain ⟨f, hf, rfl⟩ := List.mem_map.mp hk
        exact List.mem_flatMap.mpr ⟨f, hf, List.mem_cons_of_mem f he⟩
  | null | bool _ | int _ | float _ | str _ => simp [entries, parts]

/-- **Every entry is one of an object inside the value.** -/
theorem mem_entries_iff (j : Json) (e : String × Json) :
    e ∈ j.entries (fun _ => true) ↔ ∃ fields, j.Holds (.obj fields) ∧ e ∈ fields := by
  induction j using fromParts with
  | step j below =>
    rw [mem_entries_cases]
    constructor
    · rintro (⟨fields, rfl, he⟩ | ⟨k, hk, he⟩)
      · exact ⟨fields, .self _, he⟩
      · obtain ⟨fields, h, he⟩ := (below k hk).mp he
        exact ⟨fields, .part hk h, he⟩
    · rintro ⟨fields, h, he⟩
      cases h with
      | self => exact .inl ⟨fields, rfl, he⟩
      | part hk h => exact .inr ⟨_, hk, (below _ hk).mpr ⟨fields, h, he⟩⟩

end PageSync.Json
