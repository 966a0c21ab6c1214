import PageSync.Page.Property

/-!
# Proofs/Page/Matching — what is written under a key is found by the key

A query for a text names a property and the wording that it is to have (`asked?`), and a page
matches when the texts of that property, joined, are this wording.  The key is written behind the
extra properties and the title, and only the time of modification comes behind it
(`lookup_keyProperty`); so a new page is found by its key and by no other, unless the time stands in
its place (`found_by_key_iff`).
-/

namespace PageSync

namespace Property

/-! ## Matching -/

/-- The text of an item; an item of another kind has none. -/
def itemText (item : Json) : String :=
  (((item.get? "text").bind (·.get? "content")).bind Json.string?).getD ""

/-- The wording of a property: the texts of its items, joined. -/
def wording? (value : Json) : Option String :=
  ((value.get? "rich_text").bind Json.items?).map fun items => String.join (items.map itemText)

/-- **What a query asks for**: a property, and the wording that it is to have. -/
def asked? (query : Fields) : Option (String × String) := do
  let filter ← query.lookup "filter"
  let property ← (filter.get? "property").bind Json.string?
  let wording ← ((filter.get? "rich_text").bind (·.get? "equals")).bind Json.string?
  return (property, wording)

/-- Whether a page of some properties has what a query asks for. -/
def matched (query properties : Fields) : Bool :=
  match asked? query with
  | some (property, wording) => (properties.lookup property).bind wording? == some wording
  | none => false

@[simp] theorem asked?_keyFilter (property key : String) :
    asked? (keyFilter property key) = some (property, key) := rfl

@[simp] theorem wording?_richText (text : String) : wording? (richText text) = some text := by
  have hjoin : String.join [text] = text := by simp [String.join]
  exact congrArg some hjoin

/-- A date has no wording. -/
@[simp] theorem wording?_date (start : String) : wording? (date start) = none := rfl

end Property

namespace Settings

variable (s : Settings) (title key : String) (modified : Option String) (extra : Fields)

/-- **Under the name of the key** stands the time of modification, if there is one and it goes by
the same name, and else the key. -/
theorem lookup_keyProperty :
    (s.pageProperties title (some key) modified extra).lookup s.keyProperty =
      some (match modified with
        | some time =>
          if s.modifiedProperty = s.keyProperty then Property.date time else Property.richText key
        | none => Property.richText key) := by
  cases modified with
  | none => exact Fields.lookup_set_self _ _ _
  | some time =>
    simp only [pageProperties, Option.map_some, Fields.setSome]
    split
    next heq => rw [heq, Fields.lookup_set_self]
    next hne => rw [Fields.lookup_set_of_ne _ _ (Ne.symm hne), Fields.lookup_set_self]

/-- **A new page is found by its key and by no other**, unless it has a time of modification that
goes by the same name: then it is not found at all. -/
theorem found_by_key_iff (c : Config) (wanted : String) :
    Property.matched (Property.keyFilter c.settings.keyProperty wanted)
        (c.settings.pageProperties title (some key) modified extra) = true ↔
      wanted = key ∧
        (modified = none ∨ c.settings.modifiedProperty ≠ c.settings.keyProperty) := by
  simp only [Property.matched, Property.asked?_keyFilter, lookup_keyProperty, Option.bind_some,
    beq_iff_eq]
  cases modified with
  | none => simp [eq_comm]
  | some time =>
    by_cases heq : c.settings.modifiedProperty = c.settings.keyProperty
    · simp [heq]
    · simp [heq, eq_comm]

/-- **A page that is not found by its key**: the time of its modification goes by the same name. -/
theorem not_found_under_time :
    ∃ c : Config, c.settings = { Settings.default with keyProperty := "Drive Modified" } ∧
      Property.matched (Property.keyFilter c.settings.keyProperty "k")
        (c.settings.pageProperties "T" (some "k") (some "m") []) = false :=
  ⟨⟨{ Settings.default with keyProperty := "Drive Modified" }, rfl⟩, rfl, by decide +kernel⟩

end Settings

end PageSync
