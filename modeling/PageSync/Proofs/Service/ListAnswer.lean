import PageSync.Service.Access

/-!
# Proofs/Service/ListAnswer — answers that list objects

The service answers an append or a listing with an object that has objects under `results`.  Such an
answer can always be read: for the identifiers of new blocks (`blockIds_toJson`) and for the
children of a page (`childIds_objects`).
-/

namespace PageSync

/-- A well-formed answer to an append or a listing: an object that lists objects under `results`, if
it has that name at all. -/
structure ListAnswer where
  fields : Fields
  listed : Option (List Fields)
  lookup_results : fields.lookup "results" = listed.map fun items => .arr (items.map .obj)

namespace Json

/-- Objects are read for their identifiers in order; one without an identifier is passed over. -/
theorem idsOf_objects : ∀ items : List Fields,
    idsOf (items.map .obj) = .ok (items.filterMap (·.lookup "id"))
  | [] => rfl
  | fields :: rest => by
      have ih := idsOf_objects rest
      rw [List.map_cons, idsOf, ih]
      cases h : fields.lookup "id" <;>
        simp [ownId?, h, bind, Except.bind, pure, Except.pure]

/-- Children are read for the identifiers that say something. -/
theorem childIds_objects : ∀ items : List Fields,
    childIds (items.map .obj) = .ok (items.filterMap fun c => (c.lookup "id").filter truthy)
  | [] => rfl
  | fields :: rest => by
      have ih := childIds_objects rest
      rw [List.map_cons, childIds, ih]
      cases h : (fields.lookup "id").filter truthy <;>
        simp [find, h, bind, Except.bind, pure, Except.pure]

end Json

namespace ListAnswer

/-- The answer as a value. -/
def toJson (a : ListAnswer) : Json :=
  .obj a.fields

/-- The objects that are listed. -/
def objects (a : ListAnswer) : List Fields :=
  a.listed.getD []

/-- The identifiers that an answer reports. -/
def ids (a : ListAnswer) : List Json :=
  a.objects.filterMap (·.lookup "id")

/-- What is listed can be taken one by one. -/
theorem elementsAt_toJson (a : ListAnswer) :
    a.toJson.elementsAt "results" = .ok (a.objects.map .obj) := by
  obtain ⟨fields, listed, h⟩ := a
  cases listed <;>
    simp [toJson, objects, Json.elementsAt, Json.find, Json.elements, h, bind, Except.bind, pure,
      Except.pure]

/-- **A well-formed answer to an append can always be read.** -/
theorem blockIds_toJson (a : ListAnswer) : a.toJson.blockIds = .ok a.ids := by
  rw [Json.blockIds, elementsAt_toJson]
  exact Json.idsOf_objects a.objects

end ListAnswer

end PageSync
