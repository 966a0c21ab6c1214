import PageSync.Config

/-!
# Page/Property — the properties of a page

A page that was written here has a title, the key of its source and the time at which the source was
modified, under the names that the settings give. The time is kept as it was given.
-/

namespace PageSync

namespace Property

/-- A text in the list form that titles and texts have. -/
def textItems (text : String) : Json :=
  .arr [.obj [("type", .str "text"), ("text", .obj [("content", .str text)])]]

/-- The value of a title. -/
def title (text : String) : Json :=
  .obj [("title", textItems text)]

/-- The value of a text. -/
def richText (text : String) : Json :=
  .obj [("rich_text", textItems text)]

/-- The value of a date, which is not read. -/
def date (start : String) : Json :=
  .obj [("date", .obj [("start", .str start)])]

/-- The query for the pages whose text property equals a key. -/
def keyFilter (property key : String) : Fields :=
  [("filter", .obj [("property", .str property), ("rich_text", .obj [("equals", .str key)])])]

end Property

namespace Fields

/-- Give a name a value, if there is one. -/
def setSome (fields : Fields) (name : String) : Option Json → Fields
  | some value => fields.set name value
  | none => fields

end Fields

namespace Settings

/-- **The properties of a new page**: its own ones replace those of the same name among the
extra ones. -/
def pageProperties (s : Settings) (title : String) (key modified : Option String)
    (extra : Fields) : Fields :=
  ((extra.set s.titleProperty (Property.title title)).setSome s.keyProperty
    (key.map Property.richText)).setSome s.modifiedProperty (modified.map Property.date)

/-- The properties that mark a page as written from a source of a time. -/
def markerProperties (s : Settings) (modified : Option String) : Option Fields :=
  modified.map fun m => [(s.modifiedProperty, Property.date m)]

end Settings

end PageSync
