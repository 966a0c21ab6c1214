import PageSync.Proofs.Document.Forest
import PageSync.RichText.Build

/-!
# Proofs/RichText/Leaves — inline nodes are read leaf by leaf

Below wrappers and links stand the leaves of a list of inline nodes.  The spans of the list, its
text without formatting and the losses it reports are each one pass over these leaves
(`contents_ofNodes`, `plainTextOfNodes_eq`, `ofNodes_eq`), so the two recursions agree about text
(`joinedContent_spans`) without being compared with each other.
-/

namespace PageSync

/-! ## What a node is to the text around it -/

namespace Node

/-- Whether a node only formats or links its children. -/
def isWrapper (n : Node) : Bool :=
  match n.kind? with
  | some (.inline .strong) | some (.inline .emphasis) | some (.inline .strikethrough)
  | some (.inline .link) => true
  | _ => false

/-- The text that a node shows itself. -/
def shown? (n : Node) : Option String :=
  match n.kind? with
  | some (.inline .text) | some (.inline .codespan) => some n.raw
  | some (.inline .linebreak) => some "\n"
  | _ => none

/-- The formatting at a node, or below it when it is a wrapper. -/
def styled (a : Annotations) (n : Node) : Annotations :=
  match n.kind? with
  | some (.inline .strong) => a.withFlag "bold"
  | some (.inline .emphasis) => a.withFlag "italic"
  | some (.inline .strikethrough) => a.withFlag "strikethrough"
  | some (.inline .codespan) => a.withFlag "code"
  | _ => a

/-- The address below a node. -/
def linked (link : Option String) (n : Node) : Option String :=
  if n.kind? = some (.inline .link) then RichText.linkBelow link n.attrs? else link

mutual

/-- The leaves of one node: a wrapper has those of its children, another node is one. -/
def leaves : Node → List Node
  | .mk kind raw attrs children =>
    if isWrapper (.mk kind raw attrs children) then leavesOfChildren children
    else [.mk kind raw attrs children]

/-- The leaves of the children of a node. -/
def leavesOfChildren : Option (List Node) → List Node
  | none => []
  | some nodes => leavesOf nodes

/-- **The leaves of a list of nodes**, in document order. -/
def leavesOf : List Node → List Node
  | [] => []
  | n :: rest => leaves n ++ leavesOf rest

end

@[simp] theorem leavesOf_nil : leavesOf [] = [] := rfl

theorem leavesOf_cons (n : Node) (rest : List Node) :
    leavesOf (n :: rest) = (if n.isWrapper then leavesOf n.children else [n]) ++ leavesOf rest := by
  obtain ⟨kind, raw, attrs, _ | children⟩ := n <;> rfl

/-- A leaf stands in the list, or below a wrapper of it. -/
theorem exists_holds_of_mem_leavesOf (ns : List Node) :
    ∀ m ∈ leavesOf ns, ∃ n ∈ ns, n.Holds m := by
  induction ns using forest with
  | nil => simp
  | cons n rest below rest_ih =>
    intro m hm
    rw [leavesOf_cons] at hm
    rcases List.mem_append.mp hm with hm | hm
    · split at hm
      · obtain ⟨c, hc, h⟩ := below m hm
        exact ⟨n, List.mem_cons_self, .child hc h⟩
      · obtain rfl := List.mem_singleton.mp hm
        exact ⟨m, List.mem_cons_self, .self m⟩
    · obtain ⟨n', hn, h⟩ := rest_ih m hm
      exact ⟨n', List.mem_cons_of_mem _ hn, h⟩

/-- Where nothing stands below a leaf, whatever a node of the list holds is a leaf, unless it is a
wrapper. -/
theorem mem_leavesOf_of_holds (ns : List Node) (hl : ∀ l ∈ leavesOf ns, l.children = []) :
    ∀ n ∈ ns, ∀ m, n.Holds m → m.isWrapper = false → m ∈ leavesOf ns := by
  induction ns using forest with
  | nil => simp
  | cons n rest below rest_ih =>
    rw [leavesOf_cons] at hl ⊢
    intro n' hn m hm hw
    rcases List.mem_cons.mp hn with rfl | hn
    · refine List.mem_append_left _ ?_
      cases hm with
      | self => rw [hw]; exact List.mem_singleton_self _
      | child hc h =>
        split at hl
        next hwrap =>
          rw [if_pos hwrap]
          exact below (fun l hl' => hl l (List.mem_append_left _ hl')) _ hc m h hw
        next =>
          rw [hl n' (List.mem_append_left _ (List.mem_singleton_self _))] at hc
          exact absurd hc List.not_mem_nil
    · exact List.mem_append_right _
        (rest_ih (fun l hl' => hl l (List.mem_append_right _ hl')) n' hn m hm hw)

end Node

/-! ## Notes -/

namespace Notes

/-- Add several warnings at the end of those collected. -/
def more (notes : Notes) (ws : List Warning) : Notes :=
  notes.map (· ++ ws)

@[simp] theorem more_nil (notes : Notes) : notes.more [] = notes := by
  cases notes <;> simp [more]

@[simp] theorem more_more (notes : Notes) (ws vs : List Warning) :
    (notes.more ws).more vs = notes.more (ws ++ vs) := by
  cases notes <;> simp [more]

end Notes

namespace RichText

/-! ## One node -/

/-- The span of a leaf, if it shows text. -/
def leafSpans (a : Annotations) (link : Option String) (n : Node) : List Span :=
  n.shown?.toList.map fun content => ⟨content, link, n.styled a⟩

/-- The loss of a leaf that shows no text. -/
def leafLosses (n : Node) : List Warning :=
  if n.shown?.isSome then [] else [.inlineDropped n.kind.name]

/-- **The spans of one node**: a wrapper has those of its children in its own formatting, a leaf
its own or a loss. -/
theorem ofNode_eq (a : Annotations) (link : Option String) (n : Node) (notes : Notes) :
    ofNode a link n notes =
      if n.isWrapper then ofNodes (n.styled a) (n.linked link) n.children notes
      else (leafSpans a link n, notes.more (leafLosses n)) := by
  obtain ⟨kind, raw, attrs, children⟩ := n
  match kind with
  | some (.inline .text) | some (.inline .codespan) | some (.inline .linebreak) =>
    exact congrArg (Prod.mk _) notes.more_nil.symm
  | some (.inline .strong) | some (.inline .emphasis) | some (.inline .strikethrough)
  | some (.inline .link) => cases children <;> rfl
  | some (.inline .image) | some (.inline .imageReference) | some (.inline .linkReference)
  | some (.inline .footnoteRef) | some (.inline .htmlInline)
  | none | some (.block _) | some .tableRow | some .tableCell | some (.other _) => rfl

/-- The text of one node: a wrapper has that of its children, a leaf its own. -/
theorem plainText_eq (n : Node) :
    plainText n = if n.isWrapper then plainTextOfNodes n.children else n.shown?.getD "" := by
  obtain ⟨kind, raw, attrs, children⟩ := n
  match kind with
  | some (.inline k) => cases k <;> cases children <;> rfl
  | none | some (.block _) | some .tableRow | some .tableCell | some (.other _) => rfl

/-! ## Lists of nodes -/

/-- The texts that a list of nodes shows, leaf by leaf. -/
def shown (ns : List Node) : List String :=
  (Node.leavesOf ns).filterMap Node.shown?

/-- The losses of a list of nodes, leaf by leaf. -/
def losses (ns : List Node) : List Warning :=
  (Node.leavesOf ns).flatMap leafLosses

/-- The spans of a list of nodes in plain formatting. -/
def spans (ns : List Node) : List Span :=
  (ofNodes .plain none ns none).1

theorem shown_cons (n : Node) (rest : List Node) :
    shown (n :: rest) =
      (if n.isWrapper then shown n.children else n.shown?.toList) ++ shown rest := by
  rw [shown, Node.leavesOf_cons, List.filterMap_append]
  split
  · rfl
  · cases h : n.shown? <;> simp [h, shown]

theorem losses_cons (n : Node) (rest : List Node) :
    losses (n :: rest) =
      (if n.isWrapper then losses n.children else leafLosses n) ++ losses rest := by
  rw [losses, Node.leavesOf_cons, List.flatMap_append]
  split
  · rfl
  · rw [List.flatMap_singleton]; rfl

theorem ofNodes_cons (a : Annotations) (link : Option String) (n : Node) (rest : List Node)
    (notes : Notes) :
    ofNodes a link (n :: rest) notes =
      ((ofNode a link n notes).1 ++ (ofNodes a link rest (ofNode a link n notes).2).1,
        (ofNodes a link rest (ofNode a link n notes).2).2) := rfl

/-- **The spans do not depend on the notes**, and the notes gain the losses of the leaves. -/
theorem ofNodes_eq (ns : List Node) : ∀ (a : Annotations) (link : Option String) (notes : Notes),
    ofNodes a link ns notes = ((ofNodes a link ns none).1, notes.more (losses ns)) := by
  induction ns using Node.forest with
  | nil => exact fun a link notes => congrArg (Prod.mk _) notes.more_nil.symm
  | cons n rest below rest_ih =>
    intro a link notes
    rw [ofNodes_cons, ofNodes_cons, ofNode_eq, ofNode_eq, losses_cons]
    split
    · rw [below, rest_ih a link (notes.more _), Notes.more_more]
      rw [rest_ih a link (ofNodes _ _ _ none).2]
    · rw [rest_ih, Notes.more_more]
      rw [rest_ih a link (Notes.more none _)]

/-- **The spans show what the leaves show**, in order. -/
theorem contents_ofNodes (ns : List Node) :
    ∀ (a : Annotations) (link : Option String) (notes : Notes),
      (ofNodes a link ns notes).1.map (·.content) = shown ns := by
  induction ns using Node.forest with
  | nil => exact fun _ _ _ => rfl
  | cons n rest below rest_ih =>
    intro a link notes
    rw [ofNodes_cons, ofNode_eq, List.map_append, rest_ih, shown_cons]
    split
    · rw [below]
    · rw [leafSpans, List.map_map]
      exact congrArg (· ++ _) (List.map_id _)

/-- A property of formatting that no node breaks is one of the formatting of every span. -/
theorem annotations_ofNodes {P : Annotations → Prop}
    (step : ∀ (a : Annotations) (n : Node), P a → P (n.styled a)) (ns : List Node) :
    ∀ (a : Annotations) (link : Option String) (notes : Notes), P a →
      ∀ s ∈ (ofNodes a link ns notes).1, P s.annotations := by
  induction ns using Node.forest with
  | nil => exact fun _ _ _ _ s hs => absurd hs List.not_mem_nil
  | cons n rest below rest_ih =>
    intro a link notes ha s hs
    rw [ofNodes_cons, ofNode_eq] at hs
    rcases List.mem_append.mp hs with hs | hs
    · split at hs
      · exact below _ _ _ (step a n ha) s hs
      · obtain ⟨content, -, rfl⟩ := List.mem_map.mp hs
        exact step a n ha
    · exact rest_ih a link _ ha s hs

/-- The text without formatting is what the leaves show, joined. -/
theorem plainTextOfNodes_eq (ns : List Node) : plainTextOfNodes ns = String.join (shown ns) := by
  induction ns using Node.forest with
  | nil => rfl
  | cons n rest below rest_ih =>
    rw [plainTextOfNodes, plainText_eq, rest_ih, shown_cons, below]
    split
    · rw [String.join_append]
    · cases n.shown? <;> simp

/-- **Spans and plain text agree**: joined, the spans of a list of nodes are its text. -/
theorem joinedContent_spans (ns : List Node) :
    Span.joinedContent (spans ns) = plainTextOfNodes ns := by
  rw [Span.joinedContent, spans, contents_ofNodes, plainTextOfNodes_eq]

/-- There are spans exactly when some leaf shows text. -/
theorem isEmpty_spans (ns : List Node) :
    (spans ns).isEmpty = !(Node.leavesOf ns).any (·.shown?.isSome) := by
  have h : (spans ns).isEmpty = (shown ns).isEmpty := by
    rw [← contents_ofNodes ns .plain none none, List.isEmpty_map]; rfl
  rw [h, shown]
  induction Node.leavesOf ns with
  | nil => rfl
  | cons m ms ih => cases hm : m.shown? <;> simp [hm, ih]

end RichText

end PageSync
