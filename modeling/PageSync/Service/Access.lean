import PageSync.Fault
import PageSync.Text.Search

/-!
# Service/Access — looking into answers

An answer may have any shape. What an operation needs of it is taken here, or the fault is said that
arises when it is not there.
-/

namespace PageSync.Json

/-- The value under a name that has to be there. -/
def entry (j : Json) (name : String) : Except Fault Json :=
  match j with
  | .obj fields =>
    match fields.lookup name with
    | some value => .ok value
    | none => .error (.missing name)
  | _ => .error .wrongShape

/-- The value under a name, if it is there. -/
def find (j : Json) (name : String) : Except Fault (Option Json) :=
  match j with
  | .obj fields => .ok (fields.lookup name)
  | _ => .error .wrongKind

/-- The items that a value has: those of an array, the names of an object, the characters of a
string. -/
def elements : Json → Except Fault (List Json)
  | .arr items => .ok items
  | .obj fields => .ok (fields.map fun (name, _) => .str name)
  | .str s => .ok (s.toList.map fun c => .str (String.singleton c))
  | _ => .error .wrongShape

/-- The items under a name; without the name there are none. -/
def elementsAt (j : Json) (name : String) : Except Fault (List Json) := do
  match ← j.find name with
  | some items => items.elements
  | none => return []

/-- The identifier of an item, if it has one. -/
def ownId? : Json → Except Fault (Option Json)
  | .obj fields => .ok (fields.lookup "id")
  | .arr items => if items.contains (.str "id") then .error .wrongShape else .ok none
  | .str s => if Text.contains s "id" then .error .wrongShape else .ok none
  | _ => .error .wrongShape

/-- The identifiers of some items, those without one left out. -/
def idsOf : List Json → Except Fault (List Json)
  | [] => .ok []
  | item :: rest => do
    let own ← item.ownId?
    return own.toList ++ (← idsOf rest)

/-- **The identifiers of the blocks** that an answer reports. -/
def blockIds (answer : Json) : Except Fault (List Json) := do
  idsOf (← answer.elementsAt "results")

/-- The identifiers of the children that are there: those that say something. -/
def childIds : List Json → Except Fault (List Json)
  | [] => .ok []
  | child :: rest => do
    let own := ((← child.find "id").filter Json.truthy).toList
    return own ++ (← childIds rest)

end PageSync.Json
