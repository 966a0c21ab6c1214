import PageSync.Document.Kind
import PageSync.Json.Basic

/-!
# Document/Node — the nodes of a canonical document

A node may lack any of its parts, since documents can be built by hand. Adjacent plain text is kept
in one node: `mergeText` folds a text node into the text node before it, unless that one has
attributes.
-/

namespace PageSync

/-- A node with its kind, its raw text, its attributes and its children, each possibly absent. -/
inductive Node where
  | mk (kind : Option Kind) (raw : Option String) (attrs : Option Fields)
      (children : Option (List Node))
  deriving Inhabited

namespace Node

/-- The kind of a node, if it has one. -/
def kind? : Node → Option Kind
  | .mk kind _ _ _ => kind

/-- The raw text of a node, if it has one. -/
def raw? : Node → Option String
  | .mk _ raw _ _ => raw

/-- The attributes of a node, if it has some. -/
def attrs? : Node → Option Fields
  | .mk _ _ attrs _ => attrs

/-- The children of a node, if it has a list of them. -/
def children? : Node → Option (List Node)
  | .mk _ _ _ children => children

/-- The kind of a node; without one it is a kind with the empty name. -/
def kind (n : Node) : Kind :=
  n.kind?.getD (.other "")

/-- The raw text of a node; without one it is empty. -/
def raw (n : Node) : String :=
  n.raw?.getD ""

/-- The children of a node; without a list there are none. -/
def children (n : Node) : List Node :=
  n.children?.getD []

/-- An attribute of a node. -/
def attr? (n : Node) (name : String) : Option Json :=
  n.attrs?.bind (·.lookup name)

/-- A text node without attributes. -/
def text (raw : String) : Node :=
  .mk (some (.inline .text)) (some raw) none none

/-- Whether a node is of the text kind. -/
def isText (n : Node) : Bool :=
  n.kind? = some (.inline .text)

/-- Whether a node is a text node without attributes. -/
def isPlainText (n : Node) : Bool :=
  n.isText && n.attrs?.isNone

@[simp] theorem isText_text (raw : String) : (text raw).isText = true := rfl

@[simp] theorem isPlainText_text (raw : String) : (text raw).isPlainText = true := rfl

@[simp] theorem raw_text (s : String) : (text s).raw = s := rfl

/-- One plain text node for two text nodes in a row. -/
def joined (a b : Node) : Node :=
  text (a.raw ++ b.raw)

/-! ## The form in which documents are shown -/

mutual

/-- A node as an object of the parts that it has. -/
def toJson : Node → Json
  | .mk kind raw attrs children =>
    .obj ((kind.map fun k => ("type", .str k.name)).toList ++
      (raw.map fun s => ("raw", .str s)).toList ++
      (attrs.map fun a => ("attrs", .obj a)).toList ++ childrenJson children)

/-- The entry for the children of a node. -/
def childrenJson : Option (List Node) → Fields
  | none => []
  | some nodes => [("children", .arr (listJson nodes))]

/-- Nodes as objects. -/
def listJson : List Node → List Json
  | [] => []
  | n :: rest => toJson n :: listJson rest

end

/-! ## Merging adjacent text -/

/-- Put a node before a list, after it has taken in the text nodes that directly follow it. -/
def absorb (n : Node) : List Node → List Node
  | [] => [n]
  | m :: rest =>
    if n.isPlainText && m.isText then absorb (joined n m) rest else n :: absorb m rest

/-- **The nodes with adjacent text merged.** -/
def mergeText : List Node → List Node
  | [] => []
  | n :: rest => absorb n rest

/-- Put a node at the end of a list, where a text node merges into plain text before it. -/
def push : List Node → Node → List Node
  | [], m => [m]
  | [n], m => if n.isPlainText && m.isText then [joined n m] else [n, m]
  | n :: n' :: rest, m => n :: push (n' :: rest) m

theorem absorb_ne_nil : ∀ (n : Node) (ns : List Node), absorb n ns ≠ []
  | _, [] => by simp [absorb]
  | n, m :: rest => by
      unfold absorb
      split
      · exact absorb_ne_nil _ rest
      · simp

theorem push_cons_of_ne_nil {n : Node} {ns : List Node} (m : Node) (h : ns ≠ []) :
    push (n :: ns) m = n :: push ns m := by
  cases ns with
  | nil => exact absurd rfl h
  | cons => rfl

/-- A node that is pushed behind is absorbed as the last one. -/
theorem push_absorb : ∀ (n : Node) (ns : List Node) (m : Node),
    push (absorb n ns) m = absorb n (ns ++ [m])
  | n, [], m => by
      simp only [absorb, push, List.nil_append]
  | n, n' :: rest, m => by
      simp only [absorb, List.cons_append]
      split
      · exact push_absorb _ rest m
      · rw [push_cons_of_ne_nil m (absorb_ne_nil _ _), push_absorb n' rest m]

/-- **Merging is pushing** one node after the other. -/
theorem push_mergeText (ns : List Node) (m : Node) :
    push (mergeText ns) m = mergeText (ns ++ [m]) := by
  cases ns with
  | nil => rfl
  | cons n rest => exact push_absorb n rest m

/-- A part that a node has to have and lacks. -/
inductive Missing where
  | kind
  | raw
  deriving DecidableEq, Repr

/-- `push` for nodes built by hand: every node needs a kind, and text that merges needs its text. -/
def push? (ns : List Node) (m : Node) : Except Missing (List Node) :=
  if m.kind?.isNone then .error .kind
  else
    match ns.getLast? with
    | some n =>
      if n.isPlainText && m.isText && (n.raw?.isNone || m.raw?.isNone) then .error .raw
      else .ok (push ns m)
    | none => .ok (push ns m)

end Node

end PageSync
