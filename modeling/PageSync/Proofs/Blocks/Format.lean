import PageSync.Proofs.Blocks.Walk
import PageSync.Proofs.Text.Words

/-!
# Proofs/Blocks/Format — what every block looks like on a page

`IsBlock` is the format of a block as the service reads it, told of JSON alone: which names an
object has, which values stand under them, where texts may be null or empty.  Whatever the nodes of
a document look like, each of its blocks has this format (`blocks_have_format`).  The builder keeps
two facts on the way: formatting is a full record (`Annotations.IsRecord`), and a block with text
has a span (`Block.Formed`).
-/

namespace PageSync

/-! ## The format -/

namespace Json

/-- An object with exactly the given names, each once and in any order. -/
def HasNames (j : Json) (names : List String) : Prop :=
  ∃ fields, j = .obj fields ∧ List.Perm (Fields.names fields) names

/-- The formatting of a span: five flags, of which one is never on, and one color. -/
structure IsAnnotations (j : Json) : Prop where
  names : j.HasNames ["bold", "italic", "strikethrough", "underline", "code", "color"]
  flag : ∀ name ∈ ["bold", "italic", "strikethrough", "underline", "code"],
    ∃ b, j.get? name = some (.bool b)
  underline : j.get? "underline" = some (.bool false)
  color : j.get? "color" = some (.str "default")

/-- The text of a span: its content, with a link to an address or none. -/
structure IsLinkedText (j : Json) : Prop where
  names : j.HasNames ["content", "link"]
  content : ∃ s, j.get? "content" = some (.str s)
  link : j.get? "link" = some .null ∨ ∃ url, j.get? "link" = some (.obj [("url", .str url)])

/-- A span of rich text. -/
structure IsSpan (j : Json) : Prop where
  names : j.HasNames ["type", "text", "annotations"]
  type : j.get? "type" = some (.str "text")
  text : ∃ t, j.get? "text" = some t ∧ t.IsLinkedText
  annotations : ∃ a, j.get? "annotations" = some a ∧ a.IsAnnotations

/-- Rich text: at least one span. -/
def IsRichText (j : Json) : Prop :=
  ∃ spans, j = .arr spans ∧ spans ≠ [] ∧ ∀ s ∈ spans, s.IsSpan

/-- The types of blocks that hold nothing but rich text. -/
def textTypes : List String :=
  ["paragraph", "heading_1", "heading_2", "heading_3", "bulleted_list_item", "numbered_list_item",
    "quote"]

/-- The language of a code node: the first word of its info string, or the default when it has no
info string or a blank one. -/
inductive IsLanguage (n : Node) : String → Prop
  | word {info : String} {w : List Char} (hinfo : n.attr? "info" = some (.str info))
      (hw : Text.IsFirstWord w info.toList) : IsLanguage n (String.ofList w)
  | plain (hinfo : ∀ info, n.attr? "info" = some (.str info) →
      ∀ c ∈ info.toList, Text.isBlank c = true) : IsLanguage n "plain text"

/-- What a block of a node holds under the name of its type. -/
inductive IsPayload (n : Node) : String → Json → Prop
  | text {type : String} {p r : Json} (htype : type ∈ textTypes) (hnames : p.HasNames ["rich_text"])
      (hr : p.get? "rich_text" = some r) (hspans : r.IsRichText) : IsPayload n type p
  | code {language : String} {p r : Json} (hnames : p.HasNames ["rich_text", "language"])
      (hr : p.get? "rich_text" = some r) (hspans : r.IsRichText)
      (hlanguage : p.get? "language" = some (.str language)) (hne : language ≠ "")
      (hnode : n.kind? = some (.block .blockCode)) (hinfo : IsLanguage n language) :
      IsPayload n "code" p
  | divider : IsPayload n "divider" (.obj [])

/-- **A block of a node** in the form in which the service takes it. -/
def IsBlock (n : Node) (j : Json) : Prop :=
  ∃ type p, j.HasNames ["object", "type", type] ∧ j.get? "object" = some (.str "block") ∧
    j.get? "type" = some (.str type) ∧ j.get? type = some p ∧ IsPayload n type p

end Json

/-! ## Formatting -/

/-- A full formatting record, written in the usual order. -/
def Annotations.IsRecord (a : Annotations) : Prop :=
  ∃ bold italic strikethrough code : Bool,
    a = [("bold", .bool bold), ("italic", .bool italic), ("strikethrough", .bool strikethrough),
      ("underline", .bool false), ("code", .bool code), ("color", .str "default")]

namespace Annotations.IsRecord

theorem plain : IsRecord Annotations.plain := ⟨false, false, false, false, rfl⟩

/-- Nodes only turn flags on, and never that for underlining. -/
theorem styled {a : Annotations} (h : a.IsRecord) (n : Node) : IsRecord (n.styled a) := by
  obtain ⟨bold, italic, strikethrough, code, rfl⟩ := h
  rw [Node.styled]
  split
  · exact ⟨bold || true, italic, strikethrough, code, rfl⟩
  · exact ⟨bold, italic || true, strikethrough, code, rfl⟩
  · exact ⟨bold, italic, strikethrough || true, code, rfl⟩
  · exact ⟨bold, italic, strikethrough, code || true, rfl⟩
  · exact ⟨bold, italic, strikethrough, code, rfl⟩

theorem isAnnotations {a : Annotations} (h : a.IsRecord) : (Json.obj a).IsAnnotations := by
  obtain ⟨bold, italic, strikethrough, code, rfl⟩ := h
  refine ⟨⟨_, rfl, .refl _⟩, ?_, rfl, rfl⟩
  simp only [List.forall_mem_cons]
  exact ⟨⟨bold, rfl⟩, ⟨italic, rfl⟩, ⟨strikethrough, rfl⟩, ⟨false, rfl⟩, ⟨code, rfl⟩, by simp⟩

end Annotations.IsRecord

/-- A span whose formatting is a full record has the format of a span. -/
theorem Span.isSpan {s : Span} (h : s.annotations.IsRecord) : s.toJson.IsSpan where
  names := ⟨_, rfl, .refl _⟩
  type := rfl
  text := by
    refine ⟨_, rfl, ⟨_, rfl, .refl _⟩, ⟨s.content, rfl⟩, ?_⟩
    cases hl : s.link with
    | none => exact .inl rfl
    | some url => exact .inr ⟨url, rfl⟩
  annotations := ⟨_, rfl, h.isAnnotations⟩

/-- The spans of a list of nodes have full records. -/
theorem RichText.isRecord_spans (ns : List Node) : ∀ s ∈ spans ns, s.annotations.IsRecord :=
  annotations_ofNodes (fun _ n h => h.styled n) ns _ none none .plain

/-! ## Blocks -/

/-- Spans that a block may hold: at least one, each with a full record. -/
def Span.Formed (spans : List Span) : Prop :=
  spans ≠ [] ∧ ∀ s ∈ spans, s.annotations.IsRecord

/-- A block that a node may have: with text it has spans, and as code its language. -/
def Block.Formed (n : Node) : Block → Prop
  | .text _ spans => Span.Formed spans
  | .code language spans =>
    Span.Formed spans ∧ n.kind? = some (.block .blockCode) ∧ Json.IsLanguage n language
  | .divider => True

namespace Span.Formed

theorem plain (content : String) : Formed [.plain content] :=
  ⟨List.cons_ne_nil _ _, fun s hs => by
    obtain rfl := List.mem_singleton.mp hs
    exact .plain⟩

/-- Spans become rich text. -/
theorem isRichText {spans : List Span} (h : Formed spans) :
    (Json.arr (spans.map Span.toJson)).IsRichText := by
  refine ⟨_, rfl, fun he => h.1 (List.map_eq_nil_iff.mp he), fun j hj => ?_⟩
  obtain ⟨s, hs, rfl⟩ := List.mem_map.mp hj
  exact Span.isSpan (h.2 s hs)

end Span.Formed

namespace Json.IsLanguage

variable {n : Node} {language : String}

theorem ne_empty (h : IsLanguage n language) : language ≠ "" := by
  cases h with
  | @word info w hinfo hw =>
    obtain ⟨blanks, rest, -, -, hne, -⟩ := hw
    intro he
    exact hne (by rw [← String.toList_ofList (l := w), he]; rfl)
  | plain => decide

/-- The builder's language is that of the node. -/
theorem languageOf (n : Node) : IsLanguage n (Block.languageOf (n.attr? "info")) := by
  have missing (h : (n.attr? "info").bind (·.string?) = none) :
      IsLanguage n (Block.languageOf (n.attr? "info")) := by
    rw [Block.languageOf, h]
    refine .plain fun info hinfo => ?_
    rw [hinfo] at h
    exact absurd h (by simp [string?])
  match hinfo : n.attr? "info" with
  | some (.str info) =>
    rcases Text.blank_or_firstWord info.toList with hblank | ⟨w, hw⟩
    · have : Block.languageOf (some (.str info)) = "plain text" := by
        simp [Block.languageOf, string?, Text.words_of_blank hblank, Block.defaultLanguage]
      rw [this]
      refine .plain fun info' h => ?_
      obtain rfl : info = info' := by rw [hinfo] at h; simpa using h
      exact hblank
    · obtain ⟨rest, hwords⟩ := Text.words_eq_cons hw
      have : Block.languageOf (some (.str info)) = String.ofList w := by
        simp [Block.languageOf, string?, hwords]
      rw [this]
      exact .word hinfo hw
  | none | some .null | some (.bool _) | some (.int _) | some (.float _) | some (.arr _)
  | some (.obj _) => rw [hinfo] at missing; exact missing rfl

end Json.IsLanguage

namespace Block

/-- A block that a node may have takes the format on a page. -/
theorem Formed.isBlock {n : Node} {b : Block} (h : b.Formed n) : b.toJson.IsBlock n := by
  cases b with
  | text style spans =>
    refine ⟨style.name, .obj (payload (.text style spans)), ⟨_, rfl, .refl _⟩, rfl, rfl, ?_,
      .text ?_ ⟨_, rfl, .refl _⟩ rfl h.isRichText⟩
    · cases style <;> rfl
    · cases style <;> decide
  | code language spans =>
    obtain ⟨hspans, hnode, hinfo⟩ := h
    exact ⟨"code", .obj (payload (.code language spans)), ⟨_, rfl, .refl _⟩, rfl, rfl, rfl,
      .code ⟨_, rfl, .refl _⟩ rfl hspans.isRichText rfl hinfo.ne_empty hnode hinfo⟩
  | divider => exact ⟨"divider", _, ⟨_, rfl, .refl _⟩, rfl, rfl, rfl, .divider⟩

/-- A text block is filled when it has no spans. -/
theorem formed_ofSpans {n : Node} (style : TextStyle) {spans : List Span}
    (h : ∀ s ∈ spans, s.annotations.IsRecord) : (ofSpans style spans).Formed n := by
  cases spans with
  | nil => exact Span.Formed.plain " "
  | cons s rest => exact ⟨List.cons_ne_nil s rest, h⟩

/-- Joined, parts with full records have full records. -/
theorem isRecord_joinParts : ∀ (parts : List (List Span)),
    (∀ part ∈ parts, ∀ s ∈ part, s.annotations.IsRecord) →
      ∀ s ∈ joinParts parts, s.annotations.IsRecord
  | [], _, s, hs => absurd hs List.not_mem_nil
  | [part], h, s, hs => h part List.mem_cons_self s hs
  | part :: next :: rest, h, s, hs => by
      rcases List.mem_append.mp hs with hs | hs
      · exact h part List.mem_cons_self s hs
      · rcases List.mem_cons.mp hs with rfl | hs
        · exact .plain
        · exact isRecord_joinParts (next :: rest)
            (fun part hp => h part (List.mem_cons_of_mem _ hp)) s hs

/-- The blocks of a node that is no quote. -/
theorem formed_flatBlocks (n : Node) : ∀ b ∈ n.flatBlocks, b.Formed n := by
  have texts : ∀ (style : TextStyle) (ns : List Node),
      (ofSpans style (RichText.spans ns)).Formed n :=
    fun style ns => formed_ofSpans style (RichText.isRecord_spans ns)
  intro b hb
  rw [Node.flatBlocks] at hb
  split at hb
  case h_4 =>
    obtain ⟨item, -, rfl⟩ := List.mem_map.mp hb
    exact texts _ _
  all_goals obtain rfl := List.mem_singleton.mp hb
  case h_3 hk => exact ⟨.plain _, hk, .languageOf n⟩
  case h_6 => trivial
  case h_7 => exact Span.Formed.plain _
  case h_8 => exact Span.Formed.plain " "
  all_goals exact texts _ _

/-- What a node with such blocks gives to a quote has full records. -/
theorem isRecord_part {n : Node} {part : List Span} (formed : ∀ b ∈ n.blocks, b.Formed n)
    (h : n.part? = some part) : ∀ s ∈ part, s.annotations.IsRecord := by
  rw [Node.part?] at h
  split at h
  · obtain rfl := Option.some.inj h
    exact RichText.isRecord_spans _
  · obtain ⟨b, hb, hs⟩ := Option.bind_eq_some_iff.mp h
    have hb := formed b (List.mem_of_mem_head? hb)
    cases b with
    | text style spans => obtain rfl := Option.some.inj hs; exact hb.2
    | code language spans => obtain rfl := Option.some.inj hs; exact hb.1.2
    | divider => exact absurd hs (by simp [spans?])

/-- **Every block of a node is one that the node may have**, however deep its quotes go. -/
theorem formed_blocks (n : Node) : ∀ b ∈ n.blocks, b.Formed n := by
  induction n using Node.fromChildren with
  | step n below =>
    intro b hb
    by_cases h : n.kind? = some (.block .blockQuote)
    · rw [Node.blocks_of_quote h, Node.partsOf_eq] at hb
      obtain rfl := List.mem_singleton.mp hb
      refine formed_ofSpans _ (isRecord_joinParts _ fun part hpart => ?_)
      obtain ⟨c, hc, hpart⟩ := List.mem_filterMap.mp hpart
      exact isRecord_part (below c hc) hpart
    · rw [Node.blocks_of_ne h] at hb
      exact formed_flatBlocks n b hb

/-- **The format of a document.**  Whatever nodes a document is made of, each root gives blocks, one
root after the other, and each of them has the format of a block of that root. -/
theorem blocks_have_format (roots : List Node) :
    ∃ parts : List (List Block), (ofNodes roots).blocks = parts.flatten ∧
      List.Forall₂ (fun root part => ∀ b ∈ part, b.toJson.IsBlock root) roots parts := by
  refine ⟨roots.map Node.rootBlocks, ?_, ?_⟩
  · rw [ofNodes_eq, List.flatMap_def]
  · rw [List.forall₂_map_right_iff, List.forall₂_same]
    intro root _ b hb
    rw [Node.rootBlocks] at hb
    split at hb
    · exact absurd hb List.not_mem_nil
    · exact (formed_blocks root b hb).isBlock

end Block

end PageSync
