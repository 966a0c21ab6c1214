import PageSync.Decimal.Layout

/-!
# Json/Basic — JSON values and objects in insertion order

An object is the list of its entries. `Fields.set` gives a name that is present a new value in its
place and puts a new name at the end, so the order of an object is the order in which its names were
first written.
-/

namespace PageSync

/-- A JSON value; whole numbers are unbounded and kept apart from floating-point ones. -/
inductive Json where
  | null
  | bool (value : Bool)
  | int (value : Int)
  | float (value : Binary64)
  | str (value : String)
  | arr (items : List Json)
  | obj (fields : List (String × Json))
  deriving Inhabited, Repr

/-- The entries of an object, in order. -/
abbrev Fields := List (String × Json)

namespace Json

/-! ## Equality -/

mutual

/-- Whether two values are the same. -/
def same : Json → Json → Bool
  | .null, .null => true
  | .bool a, .bool b => a == b
  | .int a, .int b => a == b
  | .float a, .float b => a == b
  | .str a, .str b => a == b
  | .arr as, .arr bs => sameItems as bs
  | .obj as, .obj bs => sameFields as bs
  | _, _ => false

/-- Whether two lists of values are the same. -/
def sameItems : List Json → List Json → Bool
  | [], [] => true
  | a :: as, b :: bs => same a b && sameItems as bs
  | _, _ => false

/-- Whether two lists of entries are the same. -/
def sameFields : List (String × Json) → List (String × Json) → Bool
  | [], [] => true
  | (k, a) :: as, (l, b) :: bs => k == l && same a b && sameFields as bs
  | _, _ => false

end

mutual

theorem eq_of_same : ∀ {a b : Json}, same a b = true → a = b
  | .null, b, h => by cases b <;> simp_all [same]
  | .bool _, b, h => by cases b <;> simp_all [same]
  | .int _, b, h => by cases b <;> simp_all [same]
  | .float _, b, h => by cases b <;> simp_all [same]
  | .str _, b, h => by cases b <;> simp_all [same]
  | .arr _, b, h => by
      cases b <;> simp only [same, Bool.false_eq_true] at h
      rw [eq_of_sameItems h]
  | .obj _, b, h => by
      cases b <;> simp only [same, Bool.false_eq_true] at h
      rw [eq_of_sameFields h]

theorem eq_of_sameItems : ∀ {as bs : List Json}, sameItems as bs = true → as = bs
  | [], bs, h => by cases bs <;> simp_all [sameItems]
  | a :: as, [], h => by simp [sameItems] at h
  | a :: as, b :: bs, h => by
      simp only [sameItems, Bool.and_eq_true] at h
      rw [eq_of_same h.1, eq_of_sameItems h.2]

theorem eq_of_sameFields :
    ∀ {as bs : List (String × Json)}, sameFields as bs = true → as = bs
  | [], bs, h => by cases bs <;> simp_all [sameFields]
  | a :: as, [], h => by simp [sameFields] at h
  | (k, a) :: as, (l, b) :: bs, h => by
      simp only [sameFields, Bool.and_eq_true, beq_iff_eq] at h
      rw [h.1.1, eq_of_same h.1.2, eq_of_sameFields h.2]

end

mutual

theorem same_refl : ∀ a : Json, same a a = true
  | .null => rfl
  | .bool _ => by simp [same]
  | .int _ => by simp [same]
  | .float _ => by simp [same]
  | .str _ => by simp [same]
  | .arr as => by simp [same, sameItems_refl as]
  | .obj as => by simp [same, sameFields_refl as]

theorem sameItems_refl : ∀ as : List Json, sameItems as as = true
  | [] => rfl
  | a :: as => by simp [sameItems, same_refl a, sameItems_refl as]

theorem sameFields_refl : ∀ as : List (String × Json), sameFields as as = true
  | [] => rfl
  | (_, a) :: as => by simp [sameFields, same_refl a, sameFields_refl as]

end

theorem same_iff {a b : Json} : same a b = true ↔ a = b :=
  ⟨eq_of_same, fun h => h ▸ same_refl a⟩

instance : DecidableEq Json := fun _ _ => decidable_of_iff _ same_iff

/-! ## Looking into a value -/

/-- Whether a value counts as true: not null, false, zero, empty. -/
def truthy : Json → Bool
  | .null => false
  | .bool b => b
  | .int n => n ≠ 0
  | .float x => !x.isZero
  | .str s => s ≠ ""
  | .arr items => !items.isEmpty
  | .obj fields => !fields.isEmpty

/-- The entries of an object. -/
def fields? : Json → Option Fields
  | .obj fields => some fields
  | _ => none

/-- The items of an array. -/
def items? : Json → Option (List Json)
  | .arr items => some items
  | _ => none

/-- The text of a string. -/
def string? : Json → Option String
  | .str s => some s
  | _ => none

/-- The value of a whole number. -/
def int? : Json → Option Int
  | .int n => some n
  | _ => none

/-- The value under a name, when the value is an object that has it. -/
def get? (j : Json) (name : String) : Option Json :=
  j.fields?.bind (·.lookup name)

/-- A text, or null for its absence. -/
def ofString? : Option String → Json
  | some s => .str s
  | none => .null

end Json

namespace Fields

/-- The names of an object, in order. -/
def names (fields : Fields) : List String :=
  fields.map (·.1)

/-- Whether an object has a name. -/
def has (fields : Fields) (name : String) : Bool :=
  (fields.lookup name).isSome

/-- Give a name a value: in its place if the name is present, else at the end. -/
def set : Fields → String → Json → Fields
  | [], name, v => [(name, v)]
  | (k, w) :: rest, name, v =>
    if k = name then (k, v) :: rest else (k, w) :: set rest name v

/-- An object without one of its names. -/
def erase (fields : Fields) (name : String) : Fields :=
  fields.filter fun (k, _) => k ≠ name

/-- Give several names their values, from left to right. -/
def setAll (fields more : Fields) : Fields :=
  more.foldl (fun acc (k, v) => acc.set k v) fields

/-- The object that results from writing entries one after the other. -/
def ofEntries (entries : Fields) : Fields :=
  setAll [] entries

@[simp] theorem set_nil (name : String) (v : Json) : set [] name v = [(name, v)] := rfl

theorem lookup_set_self : ∀ (fields : Fields) (name : String) (v : Json),
    (set fields name v).lookup name = some v
  | [], name, v => by simp
  | (k, w) :: rest, name, v => by
      by_cases h : k = name
      · simp [set, h]
      · have h' : (name == k) = false := by simpa using Ne.symm h
        simp [set, h, List.lookup_cons, h', lookup_set_self rest name v]

theorem lookup_set_of_ne : ∀ (fields : Fields) {name other : String} (v : Json), other ≠ name →
    (set fields name v).lookup other = fields.lookup other
  | [], name, other, v, h => by
      have h' : (other == name) = false := by simpa using h
      simp [List.lookup_cons, h']
  | (k, w) :: rest, name, other, v, h => by
      by_cases hk : k = name
      · have h' : (other == k) = false := by simpa [hk] using h
        simp [set, hk, List.lookup_cons, hk ▸ h']
      · simp [set, hk, List.lookup_cons, lookup_set_of_ne rest v h]

/-- What is erased is not there. -/
theorem lookup_erase_self (fields : Fields) (name : String) :
    (fields.erase name).lookup name = none := by
  rw [List.lookup_eq_none_iff]
  intro p hp
  have hne : p.1 ≠ name := by simpa [erase] using (List.mem_filter.mp hp).2
  simpa using hne.symm

/-- What is not erased stays. -/
theorem lookup_erase_of_ne : ∀ (fields : Fields) {name other : String}, other ≠ name →
    (fields.erase name).lookup other = fields.lookup other
  | [], _, _, _ => rfl
  | (k, v) :: rest, name, other, h => by
      have ih := lookup_erase_of_ne rest h
      by_cases hk : k = name
      · have hother : (other == k) = false := by simpa [hk] using h
        rw [erase, List.filter_cons_of_neg (by simp [hk]), List.lookup_cons, hother]
        exact ih
      · rw [erase, List.filter_cons_of_pos (by simp [hk]), List.lookup_cons, List.lookup_cons]
        split
        · rfl
        · exact ih

/-- **What several entries set is what they say**, and other names keep their values. -/
theorem lookup_setAll : ∀ (more fields : Fields) (name : String), more.names.Nodup →
    (fields.setAll more).lookup name = (more.lookup name).or (fields.lookup name)
  | [], _, _, _ => rfl
  | (k, v) :: rest, fields, name, h => by
      obtain ⟨hk, hrest⟩ := List.nodup_cons.mp h
      have ih := lookup_setAll rest (fields.set k v) name hrest
      by_cases hn : name = k
      · subst hn
        have hnone : rest.lookup name = none := by
          rw [List.lookup_eq_none_iff]
          intro p hp
          exact bne_iff_ne.mpr fun he => hk (List.mem_map.mpr ⟨p, hp, he.symm⟩)
        rw [hnone, lookup_set_self, Option.none_or] at ih
        rw [List.lookup_cons_self, Option.some_or]
        exact ih
      · rw [lookup_set_of_ne fields v hn] at ih
        rw [List.lookup_cons, beq_false_of_ne hn]
        exact ih

end Fields

end PageSync
