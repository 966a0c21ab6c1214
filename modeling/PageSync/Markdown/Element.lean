import PageSync.Markdown.Target

/-!
# Markdown/Element — the block structure of a document

Elements are blocks whose text has not been read yet. Link targets and footnotes are kept apart, by
key, and the first definition of a key counts.
-/

namespace PageSync.Markdown

/-- A block with its inline text unread. -/
inductive Element where
  | blank
  | paragraph (text : List Char)
  | heading (level : Nat) (text : List Char)
  | code (raw : List Char) (info : Option String)
  | rule
  | quote (elements : List Element)
  | list (depth : Nat) (ordered : Bool) (start : Option Nat) (items : List (List Element))
  | html (raw : List Char)
  | definition (raw label : List Char)
  | footnote (key : String) (elements : List Element)
  | table (header : List (List Char)) (rows : List (List (List Char)))

/-- The link targets and footnotes that a document defines. -/
structure References where
  targets : List (String × Target)
  notes : List (String × List Char)

namespace References

/-- No definitions. -/
def none : References :=
  ⟨[], []⟩

/-- Define a link target, unless its key has one. -/
def addTarget (refs : References) (key : String) (target : Target) : References :=
  if (refs.targets.lookup key).isSome then refs
  else { refs with targets := refs.targets ++ [(key, target)] }

/-- Define a footnote, unless its key has one. -/
def addNote (refs : References) (key : String) (text : List Char) : References :=
  if (refs.notes.lookup key).isSome then refs
  else { refs with notes := refs.notes ++ [(key, text)] }

end References

/-- A document being read: the lines to come, the elements so far, the newest first, and the
definitions met. -/
structure Reading where
  rest : List Line
  done : List Element
  refs : References

namespace Reading

/-- Start reading lines. -/
def start (lines : List Line) (refs : References) : Reading :=
  ⟨lines, [], refs⟩

/-- Put an element at the end and go on at `rest`. -/
def add (r : Reading) (e : Element) (rest : List Line) : Reading :=
  { r with done := e :: r.done, rest }

/-- Whether the last element is a paragraph. -/
def inParagraph (r : Reading) : Bool :=
  match r.done with
  | .paragraph _ :: _ => true
  | _ => false

/-- Put text at the end, into the paragraph there if there is one. -/
def addText (r : Reading) (text : List Char) (rest : List Line) : Reading :=
  match r.done with
  | .paragraph before :: done => { r with done := .paragraph (before ++ text) :: done, rest }
  | done => { r with done := .paragraph text :: done, rest }

/-- Take the next line as text. -/
def addLine (r : Reading) : Reading :=
  match r.rest with
  | [] => r
  | line :: rest => r.addText line rest

/-- Put an element behind the first `index` elements. -/
def insertAt (r : Reading) (index : Nat) (e : Element) : Reading :=
  let newer := r.done.length - index
  { r with done := r.done.take newer ++ e :: r.done.drop newer }

end Reading

end PageSync.Markdown
