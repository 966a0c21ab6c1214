import PageSync.Proofs.Document.Canonical
import PageSync.Proofs.RichText.Leaves

/-!
# Proofs/RichText/Wording — no text is lost or moved on the way from tokens to spans

The wording of a forest of tokens is read directly off the tokens, by their types alone.  It is the
text of their canonical document, and what the spans of the document say
(`wording_of_spans`): a token and its nodes have the same text (`plainTextOfNodes_canonical`), and
merging adjacent text changes the number of nodes and not their text
(`plainTextOfNodes_mergeText`).
-/

namespace PageSync

namespace RichText

/-! ## Merged text -/

theorem plainTextOfNodes_append (ns ms : List Node) :
    plainTextOfNodes (ns ++ ms) = plainTextOfNodes ns ++ plainTextOfNodes ms := by
  induction ns with
  | nil => exact (String.empty_append ..).symm
  | cons n ns ih =>
    rw [List.cons_append, plainTextOfNodes, plainTextOfNodes, ih, String.append_assoc]

/-- The text of a text node is its raw text. -/
theorem plainText_of_isText {n : Node} (h : n.isText) : plainText n = n.raw := by
  obtain ⟨kind, raw, attrs, children⟩ := n
  obtain rfl : kind = some (.inline .text) := of_decide_eq_true h
  rfl

theorem plainText_joined {n m : Node} (hn : n.isText) (hm : m.isText) :
    plainText (Node.joined n m) = plainText n ++ plainText m := by
  rw [plainText_of_isText hn, plainText_of_isText hm]
  rfl

theorem plainTextOfNodes_absorb : ∀ (n : Node) (ns : List Node),
    plainTextOfNodes (Node.absorb n ns) = plainText n ++ plainTextOfNodes ns
  | _, [] => rfl
  | n, m :: rest => by
      rw [Node.absorb, plainTextOfNodes]
      split
      next h =>
        obtain ⟨hn, hm⟩ := Bool.and_eq_true_iff.mp h
        rw [plainTextOfNodes_absorb, plainText_joined (Bool.and_eq_true_iff.mp hn).1 hm,
          String.append_assoc]
      next => rw [plainTextOfNodes, plainTextOfNodes_absorb]

/-- **Merging keeps the text** of a list of nodes. -/
theorem plainTextOfNodes_mergeText : ∀ ns : List Node,
    plainTextOfNodes (Node.mergeText ns) = plainTextOfNodes ns
  | [] => rfl
  | n :: rest => plainTextOfNodes_absorb n rest

end RichText

/-! ## Kinds and roles with text -/

/-- Whether a node of a kind shows text, its own or that of its children. -/
def Kind.speaks : Kind → Bool
  | .inline .text | .inline .codespan | .inline .linebreak | .inline .strong | .inline .emphasis
  | .inline .strikethrough | .inline .link => true
  | _ => false

/-- Whether the nodes of a role show text. -/
def Role.speaks : Role → Bool
  | .container k | .leaf k => k.speaks
  | .softbreak | .linebreak => true
  | _ => false

namespace RichText

theorem plainTextOfNodes_singleton (n : Node) : plainTextOfNodes [n] = plainText n :=
  String.append_empty

theorem plainTextOfNodes_of_silent {n : Node} {k : Kind} (hk : n.kind? = some k)
    (silent : k.speaks = false) : plainTextOfNodes [n] = "" := by
  obtain ⟨kind, raw, attrs, children⟩ := n
  obtain rfl : kind = some k := hk
  rw [plainTextOfNodes_singleton]
  match k with
  | .inline .image | .inline .imageReference | .inline .linkReference | .inline .footnoteRef
  | .inline .htmlInline => rfl
  | .block _ | .tableRow | .tableCell | .other _ => rfl

end RichText

namespace Token

open RichText

/-! ## The text of tokens -/

mutual

/-- The wording of one token: a text and a code span have their own, a line break that of a line
end, and a wrapper or a link that of its children. -/
def wording : Token → String
  | .mk type raw _ children =>
    match type with
    | some "text" | some "codespan" => raw.getD ""
    | some "softbreak" | some "linebreak" => "\n"
    | some "strong" | some "emphasis" | some "strikethrough" | some "link" => wordingBelow children
    | _ => ""

/-- The wording of the children of a token. -/
def wordingBelow : Option (List Token) → String
  | none => ""
  | some tokens => wordingOf tokens

/-- **The wording of a list of tokens**, in the order in which they were written. -/
def wordingOf : List Token → String
  | [] => ""
  | t :: rest => wording t ++ wordingOf rest

end

theorem wordingBelow_eq (children : Option (List Token)) :
    wordingBelow children = wordingOf (children.getD []) := by
  cases children <;> rfl

/-! ## Tokens without a wording -/

/-- The types of tokens that have a wording. -/
def worded : List String :=
  ["text", "codespan", "softbreak", "linebreak", "strong", "emphasis", "strikethrough", "link"]

theorem mem_worded_of_speaks {name : String} (h : (Role.ofName name).speaks) : name ∈ worded := by
  have all : ∀ entry ∈ roles, entry.2.speaks = true → entry.1 ∈ worded := by decide
  rcases Role.mem_roles_or_dropped name with hrole | hrole
  · exact all _ hrole h
  · rw [hrole] at h
    cases h

/-- The nodes of a token whose type has no wording have no text. -/
theorem plainTextOfNodes_of_unworded {t : Token} (h : t.type?.getD "" ∉ worded) :
    plainTextOfNodes t.canonical = "" := by
  have silent : t.role.speaks = false := Bool.eq_false_iff.mpr fun hs => h (mem_worded_of_speaks hs)
  obtain ⟨type, raw, attrs, children⟩ := t
  rw [canonical]
  split
  case h_1 k hrole =>
    exact plainTextOfNodes_of_silent rfl ((congrArg Role.speaks hrole).symm.trans silent)
  case h_2 k hrole =>
    exact plainTextOfNodes_of_silent rfl ((congrArg Role.speaks hrole).symm.trans silent)
  case h_3 => exact plainTextOfNodes_of_silent rfl rfl
  case h_4 => exact plainTextOfNodes_of_silent rfl rfl
  case h_5 hrole => exact absurd ((congrArg Role.speaks hrole).symm.trans silent) (by decide)
  case h_6 hrole => exact absurd ((congrArg Role.speaks hrole).symm.trans silent) (by decide)
  case h_7 => rfl

/-- A token whose type has no wording has none. -/
theorem wording_of_unworded {t : Token} (h : t.type?.getD "" ∉ worded) : t.wording = "" := by
  obtain ⟨_ | name, raw, attrs, children⟩ := t
  · rfl
  · replace h : name ∉ worded := h
    rw [wording]
    all_goals
      intro hname
      obtain rfl := Option.some.inj hname
      exact h (by decide)

/-- **A token and its nodes have the same text**, when its children and their document have. -/
theorem plainTextOfNodes_canonical (t : Token)
    (below : plainTextOfNodes (normalize (t.children?.getD [])) = wordingOf (t.children?.getD [])) :
    plainTextOfNodes t.canonical = t.wording := by
  by_cases h : t.type?.getD "" ∈ worded
  case neg => rw [plainTextOfNodes_of_unworded h, wording_of_unworded h]
  obtain ⟨_ | name, raw, attrs, children⟩ := t
  · exact absurd h (of_decide_eq_false rfl)
  have wrapped : plainTextOfNodes (canonicalChildren children) = wordingBelow children := by
    rw [canonicalChildren_eq, wordingBelow_eq]
    exact below
  replace h : name ∈ worded := h
  simp only [worded, List.mem_cons, List.not_mem_nil, or_false] at h
  obtain rfl | rfl | rfl | rfl | rfl | rfl | rfl | rfl := h
  · exact String.append_empty
  · exact String.append_empty
  · rfl
  · rfl
  all_goals exact (plainTextOfNodes_singleton _).trans wrapped

/-- **The canonical document says what the tokens say**, in the same order. -/
theorem plainTextOfNodes_normalize (ts : List Token) :
    plainTextOfNodes (normalize ts) = wordingOf ts := by
  rw [normalize, plainTextOfNodes_mergeText]
  induction ts using forest with
  | nil => rfl
  | cons t rest below rest_ih =>
    rw [canonicalPieces, plainTextOfNodes_append, rest_ih, wordingOf]
    rw [plainTextOfNodes_canonical t ((plainTextOfNodes_mergeText _).trans below)]

/-- **No text is lost or moved between tokens and spans**: the spans of the canonical document of
any tokens, in whatever formatting, below whatever link and with or without notes, are joined what
the tokens say, and so is the text of the document without its formatting. -/
theorem wording_of_spans (ts : List Token) (a : Annotations) (link : Option String)
    (notes : Notes) :
    Span.joinedContent (ofNodes a link (normalize ts) notes).1 = wordingOf ts ∧
      plainTextOfNodes (normalize ts) = wordingOf ts := by
  refine ⟨?_, plainTextOfNodes_normalize ts⟩
  rw [Span.joinedContent, contents_ofNodes, ← plainTextOfNodes_eq, plainTextOfNodes_normalize]

/-- What is dropped has no wording, and text is read on through wrappers. -/
example :
    wordingOf [text "a", branch "strong" [text "b", bare "softbreak"], branch "image" [text "x"],
      leaf "inline_html" "<i>", text "c"] = "ab\nc" := by
  rfl

end Token

end PageSync
