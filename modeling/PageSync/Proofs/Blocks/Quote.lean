import PageSync.Proofs.Blocks.Format
import PageSync.Proofs.Blocks.Notices

/-!
# Proofs/Blocks/Quote — what a quote says, and where line breaks part it

A quote becomes one block.  Its children contribute to it one after the other, and a line break
parts every two contributions (`ofNode_quote`).  A paragraph without spans contributes an empty
text, and it is parted from its neighbours as well: `quote_parted_iff` says for which quotes this
leaves no trace, `dangling_line_break` shows the traces.

Where every paragraph has spans, quotes inside quotes are not seen.  A quote contributes to the
quote around it what its own children do, parted in the same way
(`Node.IsQuoteTree.contribution?_eq`), so it reads as if all the paragraphs below it stood in it
directly (`nested_quotes_are_flat`).
-/

namespace PageSync

/-! ## Joining with a separator -/

section Joining

variable {α β : Type*} {sep : List α}

/-- Parts that are not empty are not empty when joined. -/
theorem intercalate_ne_nil : ∀ {parts : List (List α)}, parts ≠ [] →
    (∀ part ∈ parts, part ≠ []) → sep.intercalate parts ≠ []
  | [part], _, h => by
      rw [List.intercalate_singleton]
      exact h part (List.mem_singleton_self part)
  | part :: next :: rest, _, h => by
      rw [List.intercalate_cons_cons, List.append_assoc]
      exact List.append_ne_nil_of_left_ne_nil (h part List.mem_cons_self) _

/-- Two lists of parts in a row are joined as each of them, with the separator between. -/
theorem intercalate_append {xs ys : List (List α)} (hxs : xs ≠ []) (hys : ys ≠ []) :
    sep.intercalate (xs ++ ys) = sep.intercalate xs ++ sep ++ sep.intercalate ys := by
  induction xs with
  | nil => exact absurd rfl hxs
  | cons x rest ih =>
    cases rest with
    | nil => rw [List.singleton_append, List.intercalate_cons_of_ne_nil hys,
        List.intercalate_singleton]
    | cons y rest =>
      rw [List.cons_append, List.cons_append, List.intercalate_cons_cons, ← List.cons_append,
        ih (List.cons_ne_nil y rest), List.intercalate_cons_cons]
      simp only [List.append_assoc]

/-- **Joining in two levels**: parts that are themselves joined by the separator are joined as all
the smaller parts in a row. -/
theorem intercalate_flatMap {f : β → List (List α)} : ∀ {xs : List β}, (∀ x ∈ xs, f x ≠ []) →
    sep.intercalate (xs.flatMap f) = sep.intercalate (xs.map fun x => sep.intercalate (f x))
  | [], _ => rfl
  | [x], _ => by rw [List.flatMap_singleton, List.map_singleton, List.intercalate_singleton]
  | x :: y :: rest, h => by
      have hrest : ∀ z ∈ y :: rest, f z ≠ [] := fun z hz => h z (List.mem_cons_of_mem x hz)
      have hne : (y :: rest).flatMap f ≠ [] := fun he =>
        hrest y List.mem_cons_self (List.flatMap_eq_nil_iff.mp he y List.mem_cons_self)
      rw [List.flatMap_cons, intercalate_append (h x List.mem_cons_self) hne,
        intercalate_flatMap hrest, List.map_cons, List.map_cons, List.map_cons,
        List.intercalate_cons_cons]

/-- A separator stands between any two parts. -/
theorem mem_intercalate (a : α) : ∀ {parts : List (List α)}, 1 < parts.length →
    a ∈ [a].intercalate parts
  | [], h | [_], h => absurd h (by simp)
  | part :: next :: rest, _ => by
      rw [List.intercalate_cons_cons, List.append_assoc]
      exact List.mem_append_right part (List.mem_append_left _ (List.mem_singleton_self a))

/-- Between the parts of a list stands one separator less than there are parts. -/
theorem length_intercalate (a : α) : ∀ {parts : List (List α)}, parts ≠ [] →
    ([a].intercalate parts).length + 1 = parts.flatten.length + parts.length
  | [part], _ => by simp
  | part :: next :: rest, _ => by
      have ih := length_intercalate a (List.cons_ne_nil next rest)
      rw [List.intercalate_cons_cons, List.flatten_cons]
      simp only [List.length_append, List.length_cons, List.length_nil] at ih ⊢
      omega

/-- **Empty parts are seen by their separators**: without them the join is the same only where there
are none, or no two parts. -/
theorem intercalate_filter_iff [DecidableEq α] (a : α) (parts : List (List α)) :
    [a].intercalate parts = [a].intercalate (parts.filter (· ≠ [])) ↔
      (∀ part ∈ parts, part ≠ []) ∨ parts.length ≤ 1 := by
  constructor
  · intro h
    refine or_iff_not_imp_right.mpr fun hlong => ?_
    have hmem := mem_intercalate a (Nat.lt_of_not_le hlong)
    have hparts : parts ≠ [] := by
      rintro rfl
      exact hlong (Nat.zero_le 1)
    have hkept : parts.filter (· ≠ []) ≠ [] := by
      intro he
      rw [h, he] at hmem
      exact List.not_mem_nil hmem
    -- The kept parts hold as many elements, so as many separators means as many parts.
    have hcount : (parts.filter (· ≠ [])).length = parts.length := by
      have hall := length_intercalate a hparts
      have hsome := length_intercalate a hkept
      rw [List.flatten_filter_ne_nil, ← h] at hsome
      omega
    exact fun part hpart =>
      of_decide_eq_true (List.length_filter_eq_length_iff.mp hcount part hpart)
  · rintro (h | h)
    · rw [List.filter_eq_self.mpr fun part hpart => decide_eq_true (h part hpart)]
    · match parts, h with
      | [], _ | [[]], _ | [_ :: _], _ => rfl

end Joining

namespace Block

theorem joinParts_eq : ∀ parts : List (List Span),
    joinParts parts = [Span.newline].intercalate parts
  | [] => rfl
  | [part] => List.intercalate_singleton.symm
  | part :: next :: rest => by
      change part ++ Span.newline :: joinParts (next :: rest) = _
      rw [joinParts_eq (next :: rest), List.intercalate_cons_cons, List.append_assoc,
        List.singleton_append]

theorem ofSpans_of_ne_nil (style : TextStyle) {spans : List Span} (h : spans ≠ []) :
    ofSpans style spans = text style spans := by
  rw [ofSpans, if_neg (mt List.isEmpty_iff.mp h)]

end Block

/-! ## Contributions -/

namespace Node

/-- **What a node contributes to the quote around it**: a paragraph its spans, any other node the
spans of the first block that it becomes, if that has some. -/
def contribution? (n : Node) : Option (List Span) :=
  if n.kind? = some (.block .paragraph) then some (RichText.spans n.children)
  else (Block.ofNode n .empty).1.head?.bind (·.spans?)

/-- The text of a quote as it is meant to be parted: the contributions that are not empty, with one
line break between two of them, or a blank when there are none. -/
def partedText (quote : Node) : List Span :=
  let parts := (quote.children.filterMap contribution?).filter (· ≠ [])
  if parts = [] then [.blank] else [Span.newline].intercalate parts

theorem contribution?_eq_part? (n : Node) : n.contribution? = n.part? := by
  rw [contribution?, part?, Block.ofNode_eq]

/-- Only a paragraph without spans contributes an empty text: all other blocks are filled. -/
theorem contribution?_eq_some_nil_iff (n : Node) :
    n.contribution? = some [] ↔
      n.kind? = some (.block .paragraph) ∧ RichText.spans n.children = [] := by
  by_cases hp : n.kind? = some (.block .paragraph)
  · rw [contribution?, if_pos hp, Option.some_inj, and_iff_right hp]
  · rw [contribution?_eq_part?, part?, if_neg hp]
    refine ⟨fun h => ?_, fun h => absurd h.1 hp⟩
    obtain ⟨b, hb, hs⟩ := Option.bind_eq_some_iff.mp h
    have formed := Block.formed_blocks n b (List.mem_of_mem_head? hb)
    cases b with
    | text style spans => exact absurd (Option.some.inj hs) formed.1
    | code language spans => exact absurd (Option.some.inj hs) formed.1.1
    | divider => exact absurd hs (Option.some_ne_none _).symm

end Node

namespace Block

/-- A quote becomes one block, in which line breaks part the contributions of its children. -/
theorem ofNode_quote {n : Node} (h : n.kind? = some (.block .blockQuote)) (draft : Draft) :
    (ofNode n draft).1 =
      [ofSpans .quote ([Span.newline].intercalate (n.children.filterMap Node.contribution?))] := by
  rw [ofNode_eq, Node.blocks_of_quote h, Node.partsOf_eq, joinParts_eq,
    funext Node.contribution?_eq_part?]

/-! ## Where line breaks stand -/

theorem text_partedText (quote : Node) :
    text .quote quote.partedText = ofSpans .quote ([Span.newline].intercalate
      ((quote.children.filterMap Node.contribution?).filter (· ≠ []))) := by
  rw [Node.partedText]
  generalize hparts : (quote.children.filterMap Node.contribution?).filter (· ≠ []) = parts
  by_cases hnil : parts = []
  · rw [hnil]
    rfl
  · have hne : [Span.newline].intercalate parts ≠ [] := by
      refine intercalate_ne_nil hnil fun part hpart => ?_
      rw [← hparts] at hpart
      exact of_decide_eq_true (List.mem_filter.mp hpart).2
    rw [if_neg hnil, ofSpans_of_ne_nil .quote hne]

/-- Joined parts fill a block as those of them do that are not empty, exactly when none is empty or
there are no two parts. -/
theorem ofSpans_filter_iff (style : TextStyle) (parts : List (List Span)) :
    ofSpans style ([Span.newline].intercalate parts) =
        ofSpans style ([Span.newline].intercalate (parts.filter (· ≠ []))) ↔
      (∀ part ∈ parts, part ≠ []) ∨ parts.length ≤ 1 := by
  refine ⟨fun h => or_iff_not_imp_right.mpr fun hlong => ?_, fun h => ?_⟩
  · have hbreak := mem_intercalate Span.newline (Nat.lt_of_not_le hlong)
    rw [ofSpans_of_ne_nil style (List.ne_nil_of_mem hbreak)] at h
    have hkept : [Span.newline].intercalate (parts.filter (· ≠ [])) ≠ [] := by
      intro he
      rw [he] at h
      rw [(text.inj h).2] at hbreak
      exact absurd (List.mem_singleton.mp hbreak) (by decide)
    rw [ofSpans_of_ne_nil style hkept] at h
    exact ((intercalate_filter_iff _ parts).mp (text.inj h).2).resolve_right hlong
  · rw [(intercalate_filter_iff _ parts).mpr h]

/-- **When a quote is parted as it is meant to be.**  A quote becomes one block, in which a line
break stands between every two contributions of its children; these are all that is meant to stand
there exactly when each paragraph in the quote has spans, or no two children contribute. -/
theorem quote_parted_iff (raw : Option String) (attrs : Option Fields)
    (children : Option (List Node)) (draft : Draft) :
    let quote := Node.mk (some (.block .blockQuote)) raw attrs children
    let parts := quote.children.filterMap Node.contribution?
    (ofNode quote draft).1 = [ofSpans .quote ([Span.newline].intercalate parts)] ∧
      ((ofNode quote draft).1 = [text .quote quote.partedText] ↔
        (∀ c ∈ quote.children, c.kind? = some (.block .paragraph) →
          RichText.spans c.children ≠ []) ∨ parts.length ≤ 1) := by
  intro quote parts
  have hblock : (ofNode quote draft).1 = [ofSpans .quote ([Span.newline].intercalate parts)] :=
    ofNode_quote rfl draft
  have hempty : (∀ part ∈ parts, part ≠ []) ↔
      ∀ c ∈ quote.children, c.kind? = some (.block .paragraph) →
        RichText.spans c.children ≠ [] := by
    constructor
    · intro h c hc hp hnil
      exact h [] (List.mem_filterMap.mpr
        ⟨c, hc, c.contribution?_eq_some_nil_iff.mpr ⟨hp, hnil⟩⟩) rfl
    · rintro h part hpart rfl
      obtain ⟨c, hc, hnil⟩ := List.mem_filterMap.mp hpart
      obtain ⟨hp, hnil⟩ := c.contribution?_eq_some_nil_iff.mp hnil
      exact h c hc hp hnil
  refine ⟨hblock, ?_⟩
  rw [hblock, text_partedText, List.singleton_inj, ofSpans_filter_iff, hempty]

/-- **Line breaks without a text on both sides**: next to a paragraph with nothing but an image a
line break stands at the start of a quote, at its end, twice in a row, or in place of a blank. -/
theorem dangling_line_break :
    let paragraph (ns : List Node) : Node := .mk (some (.block .paragraph)) none none (some ns)
    let quote (ns : List Node) : Node := .mk (some (.block .blockQuote)) none none (some ns)
    let image : Node := paragraph [.mk (some (.inline .image)) none none none]
    let a : Node := paragraph [.text "a"]
    let b : Node := paragraph [.text "b"]
    ∀ case ∈ [
        ([image, a], [Span.newline, .plain "a"], [Span.plain "a"]),
        ([a, image], [.plain "a", .newline], [.plain "a"]),
        ([a, image, b], [.plain "a", .newline, .newline, .plain "b"],
          [.plain "a", .newline, .plain "b"]),
        ([image, image], [.newline], [.blank])],
      (ofNode (quote case.1) .empty).1 = [text .quote case.2.1] ∧
        (quote case.1).partedText = case.2.2 ∧ case.2.1 ≠ case.2.2 := by
  decide

end Block

/-! ## Quotes inside quotes -/

namespace Node

/-- **Quotes around paragraphs**: a paragraph with spans, or a quote that is not empty and holds
nothing but such nodes. -/
inductive IsQuoteTree : Node → Prop
  | paragraph {n : Node} (hk : n.kind? = some (.block .paragraph))
      (hspans : RichText.spans n.children ≠ []) : IsQuoteTree n
  | quote {n : Node} (hk : n.kind? = some (.block .blockQuote)) (hne : n.children ≠ [])
      (below : ∀ c ∈ n.children, IsQuoteTree c) : IsQuoteTree n

/-- The spans of the blocks below some quotes, in document order and with one line break between
two of these blocks. -/
def quotedText (n : Node) : List Span :=
  [Span.newline].intercalate (n.unquoted.map fun p => RichText.spans p.children)

theorem unquoted_of_paragraph {n : Node} (h : n.kind? = some (.block .paragraph)) :
    n.unquoted = [n] :=
  unquoted_of_ne (by rw [h]; decide)

namespace IsQuoteTree

variable {n : Node}

/-- Below the quotes stand paragraphs with spans. -/
theorem paragraph_of_mem (h : IsQuoteTree n) : ∀ p ∈ n.unquoted,
    p.kind? = some (.block .paragraph) ∧ RichText.spans p.children ≠ [] := by
  induction h with
  | paragraph hk hspans =>
    rw [unquoted_of_paragraph hk]
    exact List.forall_mem_singleton.mpr ⟨hk, hspans⟩
  | quote hk _ _ ih =>
    rw [unquoted_of_quote hk]
    intro p hp
    obtain ⟨c, hc, hp⟩ := List.mem_flatMap.mp hp
    exact ih c hc p hp

/-- Below the quotes stands some paragraph. -/
theorem unquoted_ne_nil (h : IsQuoteTree n) : n.unquoted ≠ [] := by
  induction h with
  | paragraph hk _ =>
    rw [unquoted_of_paragraph hk]
    exact List.cons_ne_nil _ _
  | @quote n hk hne _ ih =>
    obtain ⟨c, hc⟩ := List.exists_mem_of_ne_nil _ hne
    rw [unquoted_of_quote hk]
    exact fun he => ih c hc (List.flatMap_eq_nil_iff.mp he c hc)

theorem quotedText_ne_nil (h : IsQuoteTree n) : n.quotedText ≠ [] := by
  refine intercalate_ne_nil (mt List.map_eq_nil_iff.mp h.unquoted_ne_nil) fun part hpart => ?_
  obtain ⟨p, hp, rfl⟩ := List.mem_map.mp hpart
  exact (h.paragraph_of_mem p hp).2

theorem child (h : IsQuoteTree n) (hk : n.kind? = some (.block .blockQuote)) :
    ∀ c ∈ n.children, IsQuoteTree c := by
  cases h with
  | paragraph hp _ => exact absurd (hk.symm.trans hp) (by decide)
  | quote _ _ below => exact below

/-- A quote whose children contribute the paragraphs below them has all these paragraphs in its
block: it is filled with nothing. -/
theorem ofNode_of_contributions (h : IsQuoteTree n) (hk : n.kind? = some (.block .blockQuote))
    (given : ∀ c ∈ n.children, c.contribution? = some c.quotedText) (draft : Draft) :
    (Block.ofNode n draft).1 = [.text .quote n.quotedText] := by
  have hjoined : [Span.newline].intercalate (n.children.filterMap contribution?) =
      n.quotedText := by
    rw [List.filterMap_eq_map_iff_forall_eq_some.mpr given, quotedText, unquoted_of_quote hk,
      List.map_flatMap, intercalate_flatMap]
    · rfl
    · exact fun c hc => mt List.map_eq_nil_iff.mp (h.child hk c hc).unquoted_ne_nil
  rw [Block.ofNode_quote hk, hjoined, Block.ofSpans_of_ne_nil .quote h.quotedText_ne_nil]

/-- **What quotes around paragraphs contribute** to the quote around them: these paragraphs, parted
as in any quote. -/
theorem contribution?_eq (h : IsQuoteTree n) : n.contribution? = some n.quotedText := by
  induction h with
  | paragraph hk _ =>
    rw [contribution?, if_pos hk, quotedText, unquoted_of_paragraph hk, List.map_singleton,
      List.intercalate_singleton]
  | @quote n hk hne below ih =>
    rw [contribution?, if_neg (by rw [hk]; decide),
      (IsQuoteTree.quote hk hne below).ofNode_of_contributions hk ih]
    rfl

/-- The block of a quote around paragraphs. -/
theorem ofNode_eq (h : IsQuoteTree n) (hk : n.kind? = some (.block .blockQuote)) (draft : Draft) :
    (Block.ofNode n draft).1 = [.text .quote n.quotedText] :=
  h.ofNode_of_contributions hk (fun c hc => (h.child hk c hc).contribution?_eq) draft

/-- The flat quote over the paragraphs below some quotes. -/
theorem flat (h : IsQuoteTree n) (raw : Option String) (attrs : Option Fields) :
    IsQuoteTree (.mk (some (.block .blockQuote)) raw attrs (some n.unquoted)) :=
  .quote rfl h.unquoted_ne_nil fun p hp =>
    .paragraph (h.paragraph_of_mem p hp).1 (h.paragraph_of_mem p hp).2

/-- A flat quote has the paragraphs that stand in it below it. -/
theorem unquoted_flat (h : IsQuoteTree n) (raw : Option String) (attrs : Option Fields) :
    (Node.mk (some (.block .blockQuote)) raw attrs (some n.unquoted)).unquoted = n.unquoted := by
  have hself : ∀ p ∈ n.unquoted, p.unquoted = [p] := fun p hp =>
    unquoted_of_paragraph (h.paragraph_of_mem p hp).1
  rw [unquoted_of_quote rfl]
  exact (List.flatMap_congr hself).trans (List.flatMap_singleton' n.unquoted)

end IsQuoteTree

end Node

namespace Block

/-- **Quotes inside quotes are not seen.**  A quote whose quotes, at any depth, are not empty and
hold only quotes and paragraphs with spans becomes one block with the spans of these paragraphs, in
document order and with one line break between two of them.  The flat quote over the same
paragraphs becomes the same block. -/
theorem nested_quotes_are_flat {n : Node} (hk : n.kind? = some (.block .blockQuote))
    (h : n.IsQuoteTree) (draft : Draft) :
    (ofNode n draft).1 = [text .quote n.quotedText] ∧
      ∀ (raw : Option String) (attrs : Option Fields) (later : Draft),
        (ofNode (.mk (some (.block .blockQuote)) raw attrs (some n.unquoted)) later).1 =
          (ofNode n draft).1 := by
  refine ⟨h.ofNode_eq hk draft, fun raw attrs later => ?_⟩
  rw [(h.flat raw attrs).ofNode_eq rfl, Node.quotedText, h.unquoted_flat raw attrs,
    h.ofNode_eq hk, Node.quotedText]

/-- A quote with a paragraph between two quotes, of which the first holds a quote and a paragraph
with two spans.  The paragraph between them has one span without a text. -/
theorem nested_quotes_are_flat_shown :
    let paragraph (ns : List Node) : Node := .mk (some (.block .paragraph)) none none (some ns)
    let quote (ns : List Node) : Node := .mk (some (.block .blockQuote)) none none (some ns)
    let strong : Node := .mk (some (.inline .strong)) none none (some [.text "b", .text "c"])
    let top : Node := quote [quote [quote [paragraph [.text "a"]], paragraph [strong]],
      paragraph [.text ""], quote [paragraph [.text "d"]]]
    (top.kind? = some (.block .blockQuote) ∧ top.IsQuoteTree) ∧
      (ofNode top .empty).1 = [text .quote top.quotedText] ∧
        ∀ (raw : Option String) (attrs : Option Fields) (later : Draft),
          (ofNode (.mk (some (.block .blockQuote)) raw attrs (some top.unquoted)) later).1 =
            (ofNode top .empty).1 := by
  intro paragraph quote strong top
  have leaf (n : Node) (ns : List Node) (hs : RichText.spans (n :: ns) ≠ []) :
      (paragraph (n :: ns)).IsQuoteTree := .paragraph rfl hs
  have around (n : Node) (ns : List Node) (below : ∀ c ∈ n :: ns, c.IsQuoteTree) :
      (quote (n :: ns)).IsQuoteTree := .quote rfl (List.cons_ne_nil n ns) below
  have tree : top.IsQuoteTree := by
    refine around _ _ (List.forall_mem_cons.mpr ⟨?_, List.forall_mem_cons.mpr
      ⟨leaf _ _ (by decide), List.forall_mem_singleton.mpr ?_⟩⟩)
    · refine around _ _ (List.forall_mem_cons.mpr ⟨?_, List.forall_mem_singleton.mpr
        (leaf _ _ (by decide))⟩)
      exact around _ _ (List.forall_mem_singleton.mpr (leaf _ _ (by decide)))
    · exact around _ _ (List.forall_mem_singleton.mpr (leaf _ _ (by decide)))
  exact ⟨⟨rfl, tree⟩, nested_quotes_are_flat rfl tree .empty⟩

end Block

end PageSync
