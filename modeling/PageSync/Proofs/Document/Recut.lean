import Mathlib.Logic.Relation
import PageSync.Proofs.Document.Canonical

/-!
# Proofs/Document/Recut — how a reader cuts text into tokens does not matter

`Recut` changes a forest of tokens in one place, at any depth, without changing what it says: a text
is cut in two, a soft line break is written as text, a token without content is put in.  The
canonical document is the same afterwards (`normalize_eq_of_recut`).  Merging looks at the node
before it only, so the tokens of a list cannot be compared one by one: `Blends` compares what two
lists of nodes come to behind every list that may stand before them, and a cut text blends as the
whole one does (`blends_cut`).
-/

namespace PageSync

namespace Node

/-! ## Lists that merge alike -/

/-- Two lists of nodes merge into the same nodes, whatever stands before them. -/
def Blends (ns ms : List Node) : Prop :=
  ∀ before, mergeText (before ++ ns) = mergeText (before ++ ms)

namespace Blends

variable {ns ms : List Node}

theorem refl (ns : List Node) : Blends ns ns :=
  fun _ => rfl

theorem append_left (front : List Node) (h : Blends ns ms) : Blends (front ++ ns) (front ++ ms) :=
  fun before => by rw [← List.append_assoc, ← List.append_assoc, h]

theorem mergeText_eq (h : Blends ns ms) : mergeText ns = mergeText ms :=
  h []

/-- Lists blend alike when they merge alike, and every node takes in the same of both. -/
theorem of_absorb (start : mergeText ns = mergeText ms)
    (next : ∀ n, absorb n ns = absorb n ms) : Blends ns ms := by
  have all : ∀ (before : List Node) (n : Node),
      absorb n (before ++ ns) = absorb n (before ++ ms) := by
    intro before
    induction before with
    | nil => exact next
    | cons m before ih =>
      intro n
      rw [List.cons_append, List.cons_append, absorb, absorb, ih, ih]
  rintro (_ | ⟨n, before⟩)
  · exact start
  · exact all before n

end Blends

/-- **A text blends as its two parts do.** -/
theorem blends_cut (a b : String) (ns : List Node) :
    Blends (text (a ++ b) :: ns) (text a :: text b :: ns) := by
  have parts : absorb (text a) (text b :: ns) = absorb (text (a ++ b)) ns := rfl
  refine .of_absorb parts.symm fun n => ?_
  rw [absorb, absorb, isText_text, isText_text, parts]
  by_cases hn : n.isPlainText
  · have twice : absorb (joined n (text a)) (text b :: ns)
        = absorb (joined (joined n (text a)) (text b)) ns := rfl
    have whole : joined (joined n (text a)) (text b) = joined n (text (a ++ b)) :=
      congrArg text (String.append_assoc ..)
    rw [hn, Bool.and_true, if_pos rfl, if_pos rfl, twice, whole]
  · rw [Bool.and_true, if_neg hn, if_neg hn]

end Node

namespace Token

open Node (Blends)

/-! ## Changes that say nothing -/

/-- The raw text of a token; without one it is empty. -/
def raw (t : Token) : String :=
  t.raw?.getD ""

/-- A token is plain text: of the text type and without attributes. -/
structure IsPlainText (t : Token) : Prop where
  type : t.type? = some "text"
  attrs : t.attrs?.getD [] = []

/-- **One change that leaves alone what a forest of tokens says**, anywhere in the forest. -/
inductive Recut : List Token → List Token → Prop
  /-- A plain text is cut in two; either part may be empty. -/
  | cut {t a b : Token} (rest : List Token) (ht : t.IsPlainText) (ha : a.IsPlainText)
      (hb : b.IsPlainText) (raw : a.raw ++ b.raw = t.raw) : Recut (t :: rest) (a :: b :: rest)
  /-- A soft line break is written as plain text. -/
  | softbreak {t a : Token} (rest : List Token) (ht : t.type? = some "softbreak")
      (ha : a.IsPlainText) (raw : a.raw = "\n") : Recut (t :: rest) (a :: rest)
  /-- A token of a type that is always dropped is put in. -/
  | insert {t : Token} (rest : List Token) (ht : t.role = .dropped) : Recut rest (t :: rest)
  /-- A change behind a token. -/
  | behind {ts us : List Token} (t : Token) (h : Recut ts us) : Recut (t :: ts) (t :: us)
  /-- A change among the children of a token. -/
  | inside {ts us : List Token} (type raw : Option String) (attrs : Option Fields)
      (rest : List Token) (h : Recut ts us) :
      Recut (.mk type raw attrs (some ts) :: rest) (.mk type raw attrs (some us) :: rest)

/-! ## How the tokens of a change are read -/

/-- A token is no part of a table: neither its head or body, nor a row, nor a cell. -/
structure OutsideTables (t : Token) : Prop where
  parts : t.partRows = []
  row : t.rowNode = []
  cell : t.cellNode = []

theorem OutsideTables.of_plain {t : Token} (h : t.IsPlainText) : t.OutsideTables := by
  obtain ⟨type, raw, attrs, children⟩ := t
  obtain rfl : type = some "text" := h.type
  exact ⟨rfl, rfl, rfl⟩

theorem OutsideTables.of_dropped {t : Token} (h : t.role = .dropped) : t.OutsideTables := by
  obtain ⟨type, raw, attrs, children⟩ := t
  replace h : Role.ofName (type.getD "") = .dropped := h
  refine ⟨?_, ?_, ?_⟩
  · rw [partRows, h]
  · rw [rowNode, h]
  · rw [cellNode, h]

/-- Plain text is a text node without attributes. -/
theorem canonical_of_plain {t : Token} (h : t.IsPlainText) : t.canonical = [.text t.raw] := by
  obtain ⟨type, raw, attrs, children⟩ := t
  obtain rfl : type = some "text" := h.type
  have bare : someAttrs attrs = none := by
    rcases attrs with _ | _ | ⟨a, as⟩
    · rfl
    · rfl
    · exact absurd h.attrs (List.cons_ne_nil a as)
  have unfolded : canonical (.mk (some "text") raw attrs children)
      = [.mk (some (.inline .text)) (some (raw.getD "")) (someAttrs attrs) none] := rfl
  rw [unfolded, bare]
  rfl

theorem canonical_of_softbreak {t : Token} (h : t.type? = some "softbreak") :
    t.canonical = [.text "\n"] := by
  obtain ⟨type, raw, attrs, children⟩ := t
  obtain rfl : type = some "softbreak" := h
  rfl

theorem canonical_of_dropped {t : Token} (h : t.role = .dropped) : t.canonical = [] := by
  obtain ⟨type, raw, attrs, children⟩ := t
  replace h : Role.ofName (type.getD "") = .dropped := h
  rw [canonical, h]

/-! ## Forests that are read alike -/

/-- **Two forests are read alike** wherever they stand: as nodes behind any others, as the parts of
a table, as the rows of its body, and as the cells of a row. -/
structure ReadAlike (ts us : List Token) : Prop where
  pieces : Blends (canonicalPieces ts) (canonicalPieces us)
  parts : partsRows ts = partsRows us
  rows : rowNodes ts = rowNodes us
  cells : cellNodes ts = cellNodes us

namespace ReadAlike

variable {ts us : List Token}

/-- Tokens outside tables may be exchanged when their nodes blend alike. -/
theorem of_pieces (front front' : List Token) (h : ∀ t ∈ front, t.OutsideTables)
    (h' : ∀ t ∈ front', t.OutsideTables) (rest : List Token)
    (pieces : Blends (canonicalPieces (front ++ rest)) (canonicalPieces (front' ++ rest))) :
    ReadAlike (front ++ rest) (front' ++ rest) := by
  have none_of : ∀ ts : List Token, (∀ t ∈ ts, t.OutsideTables) →
      partsRows (ts ++ rest) = partsRows rest ∧ rowNodes (ts ++ rest) = rowNodes rest ∧
        cellNodes (ts ++ rest) = cellNodes rest := by
    intro ts hts
    induction ts with
    | nil => exact ⟨rfl, rfl, rfl⟩
    | cons t ts ih =>
      obtain ⟨ht, hts⟩ := List.forall_mem_cons.mp hts
      obtain ⟨parts, rows, cells⟩ := ih hts
      rw [List.cons_append, partsRows, rowNodes, cellNodes, ht.parts, ht.row, ht.cell]
      exact ⟨parts, rows, cells⟩
  obtain ⟨parts, rows, cells⟩ := none_of front h
  obtain ⟨parts', rows', cells'⟩ := none_of front' h'
  exact ⟨pieces, parts.trans parts'.symm, rows.trans rows'.symm, cells.trans cells'.symm⟩

/-- Behind the same token, forests that are read alike are read alike. -/
theorem behind (t : Token) (h : ReadAlike ts us) : ReadAlike (t :: ts) (t :: us) where
  pieces := h.pieces.append_left t.canonical
  parts := congrArg (t.partRows ++ ·) h.parts
  rows := congrArg (t.rowNode ++ ·) h.rows
  cells := congrArg (t.cellNode ++ ·) h.cells

theorem normalize_eq (h : ReadAlike ts us) : normalize ts = normalize us :=
  h.pieces.mergeText_eq

/-- **A token reads the same with children that are read alike.** -/
theorem inside (h : ReadAlike ts us) (type raw : Option String) (attrs : Option Fields)
    (rest : List Token) :
    ReadAlike (.mk type raw attrs (some ts) :: rest) (.mk type raw attrs (some us) :: rest) := by
  have nodes : canonical (.mk type raw attrs (some ts))
      = canonical (.mk type raw attrs (some us)) := by
    rw [canonical, canonical, canonicalChildren_eq, canonicalChildren_eq, tableRows_eq,
      tableRows_eq]
    rw [Option.getD_some, Option.getD_some, h.normalize_eq, h.parts]
  have parts : partRows (.mk type raw attrs (some ts))
      = partRows (.mk type raw attrs (some us)) := by
    rw [partRows, partRows, rowCells_eq, rowCells_eq, bodyRows_eq, bodyRows_eq]
    rw [Option.getD_some, Option.getD_some, h.rows, h.cells]
  have row : rowNode (.mk type raw attrs (some ts)) = rowNode (.mk type raw attrs (some us)) := by
    rw [rowNode, rowNode, rowCells_eq, rowCells_eq, Option.getD_some, Option.getD_some, h.cells]
  have cell : cellNode (.mk type raw attrs (some ts))
      = cellNode (.mk type raw attrs (some us)) := by
    rw [cellNode, cellNode, canonicalChildren_eq, canonicalChildren_eq]
    rw [Option.getD_some, Option.getD_some, h.normalize_eq]
  refine ⟨?_, ?_, ?_, ?_⟩
  · rw [canonicalPieces, canonicalPieces, nodes]
    exact .refl _
  · rw [partsRows, partsRows, parts]
  · rw [rowNodes, rowNodes, row]
  · rw [cellNodes, cellNodes, cell]

end ReadAlike

/-- **One change is not seen**, wherever the forest stands. -/
theorem readAlike_of_recut {ts us : List Token} (h : Recut ts us) : ReadAlike ts us := by
  induction h with
  | @cut t a b rest ht ha hb raw =>
    refine .of_pieces [t] [a, b] ?_ ?_ rest ?_
    · exact List.forall_mem_singleton.mpr (.of_plain ht)
    · exact List.forall_mem_cons.mpr ⟨.of_plain ha, List.forall_mem_singleton.mpr (.of_plain hb)⟩
    · have whole : canonicalPieces (t :: rest)
          = .text (a.raw ++ b.raw) :: canonicalPieces rest := by
        rw [canonicalPieces, canonical_of_plain ht, raw]
        rfl
      have parts : canonicalPieces (a :: b :: rest)
          = .text a.raw :: .text b.raw :: canonicalPieces rest := by
        rw [canonicalPieces, canonicalPieces, canonical_of_plain ha, canonical_of_plain hb]
        rfl
      rw [List.cons_append, List.nil_append, whole, List.cons_append, List.cons_append,
        List.nil_append, parts]
      exact Node.blends_cut _ _ _
  | @softbreak t a rest ht ha raw =>
    refine .of_pieces [t] [a] ?_ ?_ rest ?_
    · obtain ⟨type, raw, attrs, children⟩ := t
      obtain rfl : type = some "softbreak" := ht
      exact List.forall_mem_singleton.mpr ⟨rfl, rfl, rfl⟩
    · exact List.forall_mem_singleton.mpr (.of_plain ha)
    · rw [List.cons_append, List.cons_append, List.nil_append, canonicalPieces, canonicalPieces,
        canonical_of_softbreak ht, canonical_of_plain ha, raw]
      exact .refl _
  | @insert t rest ht =>
    refine .of_pieces [] [t] ?_ ?_ rest ?_
    · exact List.forall_mem_nil _
    · exact List.forall_mem_singleton.mpr (.of_dropped ht)
    · rw [List.cons_append, List.nil_append, canonicalPieces, canonical_of_dropped ht]
      exact .refl _
  | behind t _ ih => exact ih.behind t
  | inside type raw attrs rest _ ih => exact ih.inside type raw attrs rest

/-- **How a reader cuts text into tokens does not matter**: forests that changes lead from one to
the other, in either direction and any number of them, have the same canonical document. -/
theorem normalize_eq_of_recut {ts us : List Token} (h : Relation.EqvGen Recut ts us) :
    normalize ts = normalize us := by
  induction h with
  | rel ts us h => exact (readAlike_of_recut h).normalize_eq
  | refl ts => rfl
  | symm ts us _ ih => exact ih.symm
  | trans ts us vs _ _ first second => exact first.trans second

/-- In a cell of a table, text that is cut in two before a line end that is written as text, and a
blank line between the parts of the table. -/
theorem normalize_of_recut_cell :
    let cut := branch "table" [bare "blank_line",
      branch "table_head" [branch "table_cell" [text "a", text "b", text "\n"]]]
    let whole := branch "table" [
      branch "table_head" [branch "table_cell" [text "ab", bare "softbreak"]]]
    Relation.EqvGen Recut [whole] [cut] ∧ normalize [whole] = normalize [cut] := by
  intro cut whole
  have plain : ∀ raw, (text raw).IsPlainText := fun raw => ⟨rfl, rfl⟩
  have in_cell : ∀ {ts us : List Token}, Recut ts us →
      Recut [branch "table" [branch "table_head" [branch "table_cell" ts]]]
        [branch "table" [branch "table_head" [branch "table_cell" us]]] :=
    fun h => ((h.inside _ _ _ []).inside _ _ _ []).inside _ _ _ []
  have text_cut : Recut [text "ab", bare "softbreak"] [text "a", text "b", bare "softbreak"] :=
    .cut _ (plain "ab") (plain "a") (plain "b") rfl
  have break_written :
      Recut [text "a", text "b", bare "softbreak"] [text "a", text "b", text "\n"] :=
    ((Recut.softbreak [] rfl (plain "\n") rfl).behind (text "b")).behind (text "a")
  have line_put_in : Recut
      [branch "table" [branch "table_head" [branch "table_cell" [text "a", text "b", text "\n"]]]]
      [cut] :=
    (Recut.insert (t := bare "blank_line") _ rfl).inside _ _ _ []
  have related : Relation.EqvGen Recut [whole] [cut] :=
    .trans _ _ _ (.rel _ _ (in_cell text_cut))
      (.trans _ _ _ (.rel _ _ (in_cell break_written)) (.rel _ _ line_put_in))
  exact ⟨related, normalize_eq_of_recut related⟩

end Token

end PageSync
