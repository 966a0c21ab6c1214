import PageSync.Json.Printer

/-!
# Log/Record — log records and their lines

A record is written as one line of JSON: the four fixed entries first, then its own ones. An entry
of its own never replaces a fixed one, and the text of an exception or of a stack replaces an entry
of that name.
-/

namespace PageSync.Log

/-- A record of what happened. -/
structure Record where
  logger : String
  level : Int
  message : String
  /-- The entries of the record's own. -/
  extra : Fields
  /-- The text of an exception. -/
  exception : Option String
  /-- The text of a stack; an empty one is not written. -/
  stack : Option String
  deriving Inhabited

/-! ## Levels -/

/-- The level of debugging notes. -/
def debug : Int := 10

/-- The level of notes on what was done. -/
def info : Int := 20

/-- The level of warnings. -/
def warning : Int := 30

/-- The name of a level; a level without a name of its own is numbered. -/
def levelName (level : Int) : String :=
  if level = 10 then "DEBUG"
  else if level = 20 then "INFO"
  else if level = 30 then "WARNING"
  else if level = 40 then "ERROR"
  else if level = 50 then "CRITICAL"
  else if level = 0 then "NOTSET"
  else "Level " ++ String.ofList (Json.intText level)

/-! ## Lines -/

namespace Record

/-- The names of the fixed entries. -/
def fixedNames : List String :=
  ["ts", "level", "logger", "message"]

/-- The fixed entries of a record that is written at a time. -/
def fixed (r : Record) (time : String) : Fields :=
  [("ts", .str time), ("level", .str (levelName r.level)), ("logger", .str r.logger),
    ("message", .str r.message)]

/-- Give a name the text that a record has for it, if it has one. -/
def setText (fields : Fields) (name : String) : Option String → Fields
  | some text => fields.set name (.str text)
  | none => fields

/-- The entries of a record that follow the fixed ones. -/
def own (r : Record) : Fields :=
  let extra := r.extra.filter fun (name, _) => !fixedNames.contains name
  setText (setText extra "exception" r.exception) "stack_info" (r.stack.filter (· ≠ ""))

/-- The entries of a record that is written at a time. -/
def entries (r : Record) (time : String) : Fields :=
  r.fixed time ++ r.own

/-- **The line of a record** that is written at a time. -/
def line (r : Record) (time : String) : String :=
  Json.render .line (.obj (r.entries time))

end Record

end PageSync.Log
