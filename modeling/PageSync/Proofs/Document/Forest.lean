import PageSync.Document.Token

/-!
# Proofs/Document/Forest — lists of nodes and what stands below them

A list of nodes is empty, or a first node over its children and the nodes after it: `forest` is
induction along this, and `fromChildren` the form it has for one node.  `Holds` says that a node is
another or stands somewhere below it, and `allBelow` decides what holds of all of them.  Lists of
tokens are built in the same way (`Token.forest`).
-/

namespace PageSync.Node

/-- **Induction over lists of nodes**: what holds of no nodes, and of a list when it holds of the
children of its first node and of the rest, holds of every list. -/
@[elab_as_elim]
theorem forest {P : List Node → Prop} (nil : P [])
    (cons : ∀ (n : Node) (rest : List Node), P n.children → P rest → P (n :: rest)) :
    ∀ ns : List Node, P ns
  | [] => nil
  | .mk _ _ _ none :: rest => cons _ _ nil (forest nil cons rest)
  | .mk _ _ _ (some children) :: rest =>
    cons _ _ (forest nil cons children) (forest nil cons rest)

/-- **Induction over nodes**: what holds of a node when it holds of its children holds of every
node. -/
@[elab_as_elim]
theorem fromChildren {P : Node → Prop} (step : ∀ n : Node, (∀ c ∈ n.children, P c) → P n)
    (n : Node) : P n := by
  have all : ∀ ns : List Node, ∀ n ∈ ns, P n := by
    intro ns
    induction ns using forest with
    | nil => exact fun n hn => absurd hn List.not_mem_nil
    | cons n rest below rest_ih => exact List.forall_mem_cons.mpr ⟨step n below, rest_ih⟩
  exact all [n] n (List.mem_singleton_self n)

/-- A node is another, or stands below it. -/
inductive Holds : Node → Node → Prop
  | self (n : Node) : Holds n n
  | child {n c m : Node} (hc : c ∈ n.children) (h : Holds c m) : Holds n m

mutual

/-- Whether something is true of a node and of all below it. -/
def allBelow (p : Node → Bool) : Node → Bool
  | .mk kind raw attrs children => p (.mk kind raw attrs children) && allBelowChildren p children

/-- Whether something is true of the children of a node and of all below them. -/
def allBelowChildren (p : Node → Bool) : Option (List Node) → Bool
  | none => true
  | some nodes => allBelowNodes p nodes

/-- Whether something is true of some nodes and of all below them. -/
def allBelowNodes (p : Node → Bool) : List Node → Bool
  | [] => true
  | n :: rest => allBelow p n && allBelowNodes p rest

end

theorem allBelow_eq (p : Node → Bool) : ∀ n : Node,
    n.allBelow p = (p n && allBelowNodes p n.children)
  | .mk _ _ _ none => rfl
  | .mk _ _ _ (some _) => rfl

/-- **What is true of some nodes and all below them** is true of each node that they hold. -/
theorem allBelowNodes_iff (p : Node → Bool) (ns : List Node) :
    allBelowNodes p ns = true ↔ ∀ n ∈ ns, ∀ m, n.Holds m → p m = true := by
  induction ns using forest with
  | nil => simp [allBelowNodes]
  | cons n rest below rest_ih =>
    rw [allBelowNodes, allBelow_eq, Bool.and_eq_true, Bool.and_eq_true, below, rest_ih,
      List.forall_mem_cons]
    refine and_congr_left fun _ => ⟨?_, fun h => ?_⟩
    · rintro ⟨hn, hc⟩ m hm
      cases hm with
      | self => exact hn
      | child hmem hm => exact hc _ hmem m hm
    · exact ⟨h n (.self n), fun c hc m hm => h m (.child hc hm)⟩

/-- What is true of a node and all below it is true of each node that it holds. -/
theorem allBelow_iff (p : Node → Bool) (n : Node) :
    n.allBelow p = true ↔ ∀ m, n.Holds m → p m = true := by
  have := allBelowNodes_iff p [n]
  rwa [allBelowNodes, allBelowNodes, Bool.and_true, List.forall_mem_singleton] at this

instance (p : Node → Bool) (n : Node) : Decidable (∀ m, n.Holds m → p m = true) :=
  decidable_of_iff _ (allBelow_iff p n)

end PageSync.Node

namespace PageSync.Token

/-- **Induction over lists of tokens**, which are empty, or a first token over its children and the
tokens after it. -/
@[elab_as_elim]
theorem forest {P : List Token → Prop} (nil : P [])
    (cons : ∀ (t : Token) (rest : List Token), P (t.children?.getD []) → P rest → P (t :: rest)) :
    ∀ ts : List Token, P ts
  | [] => nil
  | .mk _ _ _ none :: rest => cons _ _ nil (forest nil cons rest)
  | .mk _ _ _ (some children) :: rest =>
    cons _ _ (forest nil cons children) (forest nil cons rest)

end PageSync.Token
