import PageSync.Fault

/-!
# RichText/Annotation — the formatting record of a span

A record is an object with five flags and a color, kept in the order in which it was written; it may
be incomplete. `merge` turns flags on and never off, and neither adds names nor touches the color;
the one name that it does not take is its own for the record.
-/

namespace PageSync

/-- A formatting record. -/
abbrev Annotations := Fields

namespace Annotations

/-- The flags of a record. -/
def flags : List String :=
  ["bold", "italic", "strikethrough", "underline", "code"]

/-- The record of plain text. -/
def plain : Annotations :=
  flags.map (·, Json.bool false) ++ [("color", .str "default")]

/-- Turn one flag on if the value counts as true; other names, and flags that the record lacks, are
left alone. -/
def override (base : Annotations) (name : String) (value : Json) : Annotations :=
  match base.lookup name with
  | some old =>
    if name ∈ flags then base.set name (.bool (old.truthy || value.truthy)) else base
  | none => base

/-- Apply overrides to a record, one after the other. -/
def overrideAll (base : Annotations) (overrides : Fields) : Annotations :=
  overrides.foldl (fun acc (name, value) => override acc name value) base

/-- The name under which a merge is given the record itself. -/
def recordName : String := "base"

/-- **Merge overrides into a record.**  The record is given by name like every override, so an
override of that name is refused. -/
def merge (base : Annotations) (overrides : Fields) : Except Fault Annotations :=
  if Fields.has overrides recordName then .error .wrongShape
  else .ok (overrideAll base overrides)

/-- The record with one flag turned on. -/
def withFlag (base : Annotations) (flag : String) : Annotations :=
  override base flag (.bool true)

end Annotations

end PageSync
