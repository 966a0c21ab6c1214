import PageSync.Proofs.Json.Fields
import PageSync.Proofs.Json.Numbers
import PageSync.Proofs.Json.Parts
import PageSync.Proofs.Json.Quoting

/-!
# Proofs/Json/RoundTrip — what is written is read back

Numbers with a fraction lose their digits, and of two entries of one name only one is read; a value
without either is plain.  A plain value reads back from its text in every style that puts nothing
but blanks beside the marks of the grammar (`read?_render`).  The text of a value is read as far as
it goes (`ReadsBack`); a list of texts is read one after the other (`readItems_texts`,
`readFields_texts`), and the length of the text bounds the calls.
-/

namespace PageSync.Json

/-! ## Plain values -/

mutual

/-- **Whether a value is plain**: its numbers are whole, and no object in it has a name twice. -/
def isPlain : Json → Bool
  | .float _ => false
  | .arr items => arePlain items
  | .obj fields => decide (Fields.names fields).Nodup && arePlainFields fields
  | .null | .bool _ | .int _ | .str _ => true

/-- Whether all items of an array are plain. -/
def arePlain : List Json → Bool
  | [] => true
  | j :: rest => isPlain j && arePlain rest

/-- Whether all values of an object are plain. -/
def arePlainFields : List (String × Json) → Bool
  | [] => true
  | (_, j) :: rest => isPlain j && arePlainFields rest

end

theorem arePlain_iff {items : List Json} :
    arePlain items = true ↔ ∀ k ∈ items, k.isPlain = true := by
  induction items with
  | nil => simp [arePlain]
  | cons j rest ih => rw [arePlain, Bool.and_eq_true, ih, List.forall_mem_cons]

theorem arePlainFields_iff {fields : Fields} :
    arePlainFields fields = true ↔ ∀ e ∈ fields, e.2.isPlain = true := by
  induction fields with
  | nil => simp [arePlainFields]
  | cons e rest ih => rw [arePlainFields, Bool.and_eq_true, ih, List.forall_mem_cons]

theorem isPlain_obj_iff {fields : Fields} : (obj fields).isPlain = true ↔
    fields.names.Nodup ∧ ∀ e ∈ fields, e.2.isPlain = true := by
  rw [isPlain, Bool.and_eq_true, decide_eq_true_iff, arePlainFields_iff]

/-! ## Blanks -/

variable {cs rest blanks : List Char}

theorem skipSpace_append (h : ∀ c ∈ blanks, isSpace c = true) :
    skipSpace (blanks ++ cs) = skipSpace cs :=
  List.dropWhile_append_of_pos h

theorem skipSpace_cons {c : Char} (h : isSpace c = false) : skipSpace (c :: cs) = c :: cs :=
  List.dropWhile_cons_of_neg (by simp [h])

theorem skipSpace_of_head {c : Char} {text : List Char} (ht : text.head? = some c)
    (hc : isSpace c = false) (rest : List Char) : skipSpace (text ++ rest) = text ++ rest := by
  obtain ⟨cs, rfl⟩ := List.head?_eq_some_iff.mp ht
  exact skipSpace_cons hc

/-- Texts in a row begin as the first of them does. -/
theorem head_intercalate {c : Char} {text : List Char} (ht : text.head? = some c)
    (gap : List Char) (texts : List (List Char)) :
    (gap.intercalate (text :: texts)).head? = some c := by
  obtain ⟨cs, rfl⟩ := List.head?_eq_some_iff.mp ht
  cases texts with
  | nil => rw [List.intercalate_singleton, List.head?_cons]
  | cons next texts => rw [List.intercalate_cons_cons]; rfl

/-- **A style puts nothing but blanks** beside a colon and a comma. -/
structure Style.Spaced (style : Style) : Prop where
  colon : ∃ blanks, style.colon.toList = ':' :: blanks ∧ ∀ c ∈ blanks, isSpace c = true
  comma : ∃ blanks, style.comma.toList = ',' :: blanks ∧ ∀ c ∈ blanks, isSpace c = true

theorem Style.isSpace_of_mem_lead {style : Style} {level : Nat} :
    ∀ c ∈ style.lead level, isSpace c = true := by
  intro c hc
  rw [lead] at hc
  split at hc
  · rcases List.mem_cons.mp hc with rfl | hc
    · rfl
    · rw [List.eq_of_mem_replicate hc]
      rfl
  · exact absurd hc List.not_mem_nil

theorem EndsNumber.of_blanks {c : Char} (h : ∀ c ∈ blanks, isSpace c = true)
    (hc : c.isDigit = false ∧ c ≠ '.' ∧ c ≠ 'e' ∧ c ≠ 'E') : EndsNumber (blanks ++ c :: rest) := by
  cases blanks with
  | nil => exact .cons hc
  | cons b blanks =>
    have hb : isSpace b = true := h b List.mem_cons_self
    simp only [isSpace, Bool.or_eq_true, beq_iff_eq] at hb
    refine .cons ?_
    rcases hb with ((rfl | rfl) | rfl) | rfl <;> decide

/-! ## The beginning of a text -/

section

variable {style : Style} {level : Nat}

theorem writeItems_eq (items : List Json) :
    writeItems style level items = items.map (write style level) := by
  induction items with
  | nil => rfl
  | cons j rest ih => rw [writeItems, ih, List.map_cons]

/-- The text of an entry: its name in quotes, a colon, and its value. -/
def entryText (style : Style) (level : Nat) (e : String × Json) : List Char :=
  quote style.ascii e.1 ++ style.colon.toList ++ write style level e.2

theorem writeFields_eq (fields : Fields) :
    writeFields style level fields = fields.map (entryText style level) := by
  induction fields with
  | nil => rfl
  | cons e rest ih => rw [writeFields, ih, List.map_cons, entryText]

/-- **A text begins neither with a blank nor with a bracket that closes.** -/
theorem exists_head_write (style : Style) (level : Nat) : ∀ {j : Json}, j.isPlain = true →
    ∃ c, (write style level j).head? = some c ∧ isSpace c = false ∧ c ≠ ']'
  | .null, _ => ⟨'n', rfl, rfl, by decide⟩
  | .bool true, _ => ⟨'t', rfl, rfl, by decide⟩
  | .bool false, _ => ⟨'f', rfl, rfl, by decide⟩
  | .int n, _ => by
      obtain ⟨c, cs, hcs, hc⟩ := exists_head_intText n
      refine ⟨c, by rw [write, hcs, List.head?_cons], ?_⟩
      rcases hc with hc | rfl
      · constructor
        · simp only [isSpace, Bool.or_eq_false_iff, beq_eq_false_iff_ne]
          refine ⟨⟨⟨?_, ?_⟩, ?_⟩, ?_⟩ <;> (rintro rfl; exact absurd hc (by decide))
        · rintro rfl
          exact absurd hc (by decide)
      · decide
  | .float _, h => by simp [isPlain] at h
  | .str s, _ => ⟨'"', rfl, rfl, by decide⟩
  | .arr items, _ => by
      rw [write]
      cases writeItems style (level + 1) items with
      | nil => exact ⟨'[', rfl, rfl, by decide⟩
      | cons item items => exact ⟨'[', rfl, rfl, by decide⟩
  | .obj fields, _ => by
      rw [write]
      cases writeFields style (level + 1) fields with
      | nil => exact ⟨'\x7b', rfl, rfl, by decide⟩
      | cons item items => exact ⟨'\x7b', rfl, rfl, by decide⟩

end

/-! ## Values -/

/-- **A value reads back from its text**, whatever ends a number behind it, when as many calls are
allowed as the text has characters, twice. -/
def ReadsBack (style : Style) (j : Json) : Prop :=
  ∀ (level fuel : Nat) (rest : List Char), EndsNumber rest →
    2 * (write style level j).length ≤ fuel →
      readValue fuel (write style level j ++ rest) = some (j, rest)

section

variable {style : Style} {level fuel : Nat} {acc : List Json} {j : Json}

/-- The last item of an array. -/
theorem readItems_last (hb : ∀ c ∈ blanks, isSpace c = true)
    (h : readValue fuel cs = some (j, blanks ++ ']' :: rest)) :
    readItems (fuel + 1) acc cs = some ((j :: acc).reverse, rest) := by
  rw [readItems, h]
  simp only [skipSpace_append hb]
  rfl

/-- An item of an array that is followed by another. -/
theorem readItems_more (h : readValue fuel cs = some (j, ',' :: rest)) :
    readItems (fuel + 1) acc cs = readItems fuel (j :: acc) (skipSpace rest) := by
  rw [readItems, h]
  rfl

/-- What stands between two items: a comma, and blanks. -/
def separator (style : Style) (level : Nat) : List Char :=
  style.comma.toList ++ style.lead level

theorem separator_eq (hs : style.Spaced) (level : Nat) :
    ∃ blanks, separator style level = ',' :: blanks ∧ ∀ c ∈ blanks, isSpace c = true := by
  obtain ⟨blanks, hcomma, hb⟩ := hs.comma
  refine ⟨blanks ++ style.lead level, ?_, ?_⟩
  · rw [separator, hcomma, List.cons_append]
  · exact List.forall_mem_append.mpr ⟨hb, Style.isSpace_of_mem_lead⟩

/-- **The items of an array** are read one after the other. -/
theorem readItems_texts (hs : style.Spaced) (hb : ∀ c ∈ blanks, isSpace c = true) :
    ∀ (items : List Json) (fuel : Nat) (acc : List Json), items ≠ [] →
      (∀ k ∈ items, k.isPlain = true ∧ ReadsBack style k) →
      2 * ((separator style level).intercalate (items.map (write style level))).length + 1 ≤ fuel →
      readItems fuel acc ((separator style level).intercalate (items.map (write style level)) ++
        (blanks ++ ']' :: rest)) = some (acc.reverse ++ items, rest)
  | [], _, _, hne, _, _ => absurd rfl hne
  | _, 0, _, _, _, hfuel => absurd hfuel (Nat.not_succ_le_zero _)
  | [j], fuel + 1, acc, _, hread, hfuel => by
      have hj := (hread j List.mem_cons_self).2 level fuel (blanks ++ ']' :: rest)
        (.of_blanks hb (by decide)) (by simpa using Nat.le_of_succ_le_succ hfuel)
      rw [List.map_singleton, List.intercalate_singleton, readItems_last hb hj, List.reverse_cons]
  | j :: k :: more, fuel + 1, acc, _, hread, hfuel => by
      obtain ⟨gap, hsep, hgap⟩ := separator_eq hs level
      obtain ⟨c, hk, hc, -⟩ := exists_head_write style level (hread k (by simp)).1
      rw [List.map_cons, List.map_cons, List.intercalate_cons_cons, hsep] at hfuel ⊢
      simp only [List.length_append, List.length_cons] at hfuel
      simp only [List.append_assoc, List.cons_append]
      have hj := (hread j List.mem_cons_self).2 level fuel
      rw [readItems_more (hj _ (.cons (by decide)) (by omega)), skipSpace_append hgap,
        skipSpace_of_head (head_intercalate hk _ _) hc, ← List.map_cons, ← hsep,
        readItems_texts hs hb (k :: more) fuel (j :: acc) (List.cons_ne_nil _ _)
          (fun l hl => hread l (List.mem_cons_of_mem j hl)) (by rw [hsep, List.map_cons]; omega),
        List.reverse_cons, List.append_assoc, List.singleton_append]

/-- The name of an entry is read with the colon and the blanks behind it. -/
theorem readFields_name (hs : style.Spaced) (ascii : Bool) (name : String) (cs : List Char)
    (acc : Fields) :
    readFields (fuel + 1) acc (quote ascii name ++ (style.colon.toList ++ cs)) =
      (readValue fuel (skipSpace cs)).bind fun (j, rest) =>
        match skipSpace rest with
        | ',' :: rest => readFields fuel ((name, j) :: acc) (skipSpace rest)
        | '\x7d' :: rest => some (((name, j) :: acc).reverse, rest)
        | _ => none := by
  obtain ⟨gap, hcolon, hgap⟩ := hs.colon
  obtain ⟨body, hbody, hname⟩ := readQuoted_quote ascii name (style.colon.toList ++ cs)
  rw [hcolon, List.cons_append] at hname
  rw [hbody, readFields, hname]
  simp only [skipSpace_cons (show isSpace ':' = false from rfl), skipSpace_append hgap,
    String.ofList_toList]
  cases readValue fuel (skipSpace cs) with
  | none => rfl
  | some found => rfl

/-- An entry of an object is read up to what follows its value. -/
theorem readFields_entry (hs : style.Spaced) {e : String × Json} {acc : Fields}
    (hplain : e.2.isPlain = true)
    (h : readValue fuel (write style level e.2 ++ cs) = some (e.2, cs)) :
    readFields (fuel + 1) acc (entryText style level e ++ cs) =
      match skipSpace cs with
      | ',' :: rest => readFields fuel (e :: acc) (skipSpace rest)
      | '\x7d' :: rest => some ((e :: acc).reverse, rest)
      | _ => none := by
  obtain ⟨c, hhead, hc, -⟩ := exists_head_write style level hplain
  rw [entryText, List.append_assoc, List.append_assoc, readFields_name hs,
    skipSpace_of_head hhead hc, h]
  rfl

/-- An entry begins with a quote. -/
theorem head_entryText (style : Style) (level : Nat) (e : String × Json) :
    (entryText style level e).head? = some '"' := rfl

theorem length_write_le_entryText (style : Style) (level : Nat) (e : String × Json) :
    (write style level e.2).length ≤ (entryText style level e).length := by
  rw [entryText, List.length_append]
  exact Nat.le_add_left _ _

/-- **The entries of an object** are read one after the other. -/
theorem readFields_texts (hs : style.Spaced) (hb : ∀ c ∈ blanks, isSpace c = true) :
    ∀ (fields : Fields) (fuel : Nat) (acc : Fields), fields ≠ [] →
      (∀ e ∈ fields, e.2.isPlain = true ∧ ReadsBack style e.2) →
      2 * ((separator style level).intercalate (fields.map (entryText style level))).length + 1
        ≤ fuel →
      readFields fuel acc ((separator style level).intercalate
        (fields.map (entryText style level)) ++ (blanks ++ '\x7d' :: rest))
          = some (acc.reverse ++ fields, rest)
  | [], _, _, hne, _, _ => absurd rfl hne
  | _, 0, _, _, _, hfuel => absurd hfuel (Nat.not_succ_le_zero _)
  | [e], fuel + 1, acc, _, hread, hfuel => by
      obtain ⟨hplain, hj⟩ := hread e List.mem_cons_self
      have hlength := length_write_le_entryText style level e
      rw [List.map_singleton, List.intercalate_singleton] at hfuel ⊢
      rw [readFields_entry hs hplain
        (hj level fuel _ (.of_blanks hb (by decide)) (by omega)), skipSpace_append hb,
        List.reverse_cons]
      rfl
  | e :: next :: more, fuel + 1, acc, _, hread, hfuel => by
      obtain ⟨hplain, hj⟩ := hread e List.mem_cons_self
      have hlength := length_write_le_entryText style level e
      obtain ⟨gap, hsep, hgap⟩ := separator_eq hs level
      rw [List.map_cons, List.map_cons, List.intercalate_cons_cons, hsep] at hfuel ⊢
      simp only [List.length_append, List.length_cons] at hfuel
      simp only [List.append_assoc, List.cons_append]
      rw [readFields_entry hs hplain (hj level fuel _ (.cons (by decide)) (by omega)),
        skipSpace_cons (show isSpace ',' = false from rfl)]
      simp only
      have hnext := head_entryText style level next
      rw [skipSpace_append hgap, skipSpace_of_head (head_intercalate hnext _ _) rfl,
        ← List.map_cons, ← hsep,
        readFields_texts hs hb (next :: more) fuel (e :: acc) (List.cons_ne_nil _ _)
          (fun l hl => hread l (List.mem_cons_of_mem e hl)) (by rw [hsep, List.map_cons]; omega),
        List.reverse_cons, List.append_assoc, List.singleton_append]

/-- A value that begins with none of the three opening marks is a word or a number. -/
theorem readValue_scalar (h : ∀ c ∈ cs.head?, c ≠ '"' ∧ c ≠ '[' ∧ c ≠ '\x7b') :
    readValue (fuel + 1) cs = (readWord cs).or (readNumber cs) := by
  rw [readValue]
  · cases readWord cs <;> rfl
  · rintro rest rfl
    exact (h _ rfl).1 rfl
  · rintro rest rfl
    exact (h _ rfl).2.1 rfl
  · rintro rest rfl
    exact (h _ rfl).2.2 rfl

/-- An array with items. -/
theorem readValue_items {items : List Json} (hhead : (skipSpace cs).head? ≠ some ']')
    (h : readItems fuel [] (skipSpace cs) = some (items, rest)) :
    readValue (fuel + 1) ('[' :: cs) = some (.arr items, rest) := by
  rw [readValue]
  split
  next heq => exact absurd (heq ▸ rfl) hhead
  next => rw [h]; rfl

/-- An object with entries of different names. -/
theorem readValue_fields {fields : Fields} (hn : fields.names.Nodup)
    (hhead : (skipSpace cs).head? ≠ some '\x7d')
    (h : readFields fuel [] (skipSpace cs) = some (fields, rest)) :
    readValue (fuel + 1) ('\x7b' :: cs) = some (.obj fields, rest) := by
  rw [readValue]
  split
  next heq => exact absurd (heq ▸ rfl) hhead
  next =>
    rw [h]
    simp only [Option.map_some, Fields.ofEntries_of_nodup hn]

end

/-! ## Words -/

theorem afterWord?_of_not_prefix {word : String} (h : ¬ word.toList <+: cs) :
    afterWord? word cs = none :=
  if_neg fun hp => h (List.isPrefixOf_iff_prefix.mp hp)

theorem readWord_null : readWord ("null".toList ++ rest) = some (.null, rest) := by
  simp [readWord, wordValues, afterWord?, ← String.length_toList]

theorem readWord_bool (b : Bool) (rest : List Char) :
    readWord ((if b then "true" else "false").toList ++ rest) = some (.bool b, rest) := by
  cases b <;> simp [readWord, wordValues, afterWord?, ← String.length_toList]

/-- No word begins as a number does: with a digit, or with a minus and a digit. -/
theorem readWord_of_digit {c : Char} (hc : c.isDigit = true) :
    readWord (c :: cs) = none ∧ readWord ('-' :: c :: cs) = none := by
  have hne : ∀ d, d.isDigit = false → d ≠ c := by
    rintro d hd rfl
    simp [hd] at hc
  constructor <;> refine List.findSome?_eq_none_iff.mpr fun word hword => ?_ <;>
    rw [Option.map_eq_none_iff] <;> refine afterWord?_of_not_prefix ?_ <;>
    simp only [wordValues, List.mem_cons, List.not_mem_nil, or_false] at hword <;>
    rcases hword with rfl | rfl | rfl | rfl | rfl | rfl <;>
    simp [List.cons_prefix_cons, hne]

/-- A number is no word. -/
theorem readWord_intText (n : Int) (rest : List Char) : readWord (intText n ++ rest) = none := by
  cases hds : Nat.toDigits 10 n.natAbs with
  | nil => exact absurd hds Nat.toDigits_ne_nil
  | cons d ds =>
    have hd := isDigit_of_mem_toDigits d (hds ▸ List.mem_cons_self)
    rw [intText, hds]
    split
    · exact (readWord_of_digit hd).2
    · exact (readWord_of_digit hd).1

section

variable {style : Style} {level : Nat}

/-- The text of an array or an object with something in it, from its opening mark on. -/
theorem bracketed_append (style : Style) (level : Nat) (opening closing : Char)
    {texts : List (List Char)} (hne : texts ≠ []) (rest : List Char) :
    bracketed style level opening closing texts ++ rest = opening :: (style.lead (level + 1) ++
      ((separator style (level + 1)).intercalate texts ++
        (style.lead level ++ closing :: rest))) := by
  cases texts with
  | nil => exact absurd rfl hne
  | cons text texts => simp [bracketed, separator]

/-- The blanks behind an opening mark are passed over. -/
theorem skipSpace_inner {c : Char} {text : List Char} (hhead : text.head? = some c)
    (hc : isSpace c = false) (gap : List Char) (texts : List (List Char)) (rest : List Char) :
    skipSpace (style.lead level ++ (gap.intercalate (text :: texts) ++ rest))
      = gap.intercalate (text :: texts) ++ rest := by
  rw [skipSpace_append Style.isSpace_of_mem_lead, skipSpace_of_head (head_intercalate hhead _ _) hc]

/-- What is between an opening mark and a closing one is shorter than the whole. -/
theorem length_bracketed (style : Style) (level : Nat) (opening closing : Char)
    {texts : List (List Char)} (hne : texts ≠ []) :
    ((separator style (level + 1)).intercalate texts).length + 2
      ≤ (bracketed style level opening closing texts).length := by
  have h := congrArg List.length (bracketed_append style level opening closing hne [])
  simp only [List.append_nil, List.length_append, List.length_cons, List.length_nil] at h
  omega

/-- A plain text has a character, so that at least one call is allowed. -/
theorem ReadsBack.of_succ {j : Json} (hplain : j.isPlain = true)
    (h : ∀ (level fuel : Nat) (rest : List Char), EndsNumber rest →
      2 * (write style level j).length ≤ fuel + 1 →
        readValue (fuel + 1) (write style level j ++ rest) = some (j, rest)) :
    ReadsBack style j := by
  intro level fuel rest hrest hfuel
  obtain ⟨c, hhead, -⟩ := exists_head_write style level hplain
  obtain ⟨cs, hcs⟩ := List.head?_eq_some_iff.mp hhead
  cases fuel with
  | zero => rw [hcs, List.length_cons] at hfuel; omega
  | succ fuel => exact h level fuel rest hrest hfuel

/-- An array reads back when its items do. -/
theorem readsBack_arr (hs : style.Spaced) {items : List Json}
    (h : ∀ k ∈ items, k.isPlain = true ∧ ReadsBack style k) : ReadsBack style (.arr items) := by
  have hplain : (Json.arr items).isPlain = true := arePlain_iff.mpr fun k hk => (h k hk).1
  refine .of_succ hplain fun level fuel rest _ hfuel => ?_
  rw [write, writeItems_eq] at hfuel ⊢
  cases items with
  | nil => rfl
  | cons j more =>
    obtain ⟨c, hhead, hc, hclose⟩ := exists_head_write style (level + 1) (h j List.mem_cons_self).1
    have hne : (j :: more).map (write style (level + 1)) ≠ [] := by simp
    have hlength := length_bracketed style level '[' ']' hne
    have hstart := head_intercalate hhead (separator style (level + 1))
      (more.map (write style (level + 1)))
    rw [bracketed_append style level _ _ hne]
    refine readValue_items ?_ ?_
    · rw [List.map_cons, skipSpace_inner hhead hc, List.head?_append, hstart]
      simpa using hclose
    · rw [List.map_cons, skipSpace_inner hhead hc, ← List.map_cons]
      exact readItems_texts hs Style.isSpace_of_mem_lead _ fuel [] (by simp) h (by omega)

/-- An object reads back when its values do. -/
theorem readsBack_obj (hs : style.Spaced) {fields : Fields} (hn : fields.names.Nodup)
    (h : ∀ e ∈ fields, e.2.isPlain = true ∧ ReadsBack style e.2) :
    ReadsBack style (.obj fields) := by
  have hplain : (Json.obj fields).isPlain = true :=
    isPlain_obj_iff.mpr ⟨hn, fun e he => (h e he).1⟩
  refine .of_succ hplain fun level fuel rest _ hfuel => ?_
  rw [write, writeFields_eq] at hfuel ⊢
  cases fields with
  | nil => rfl
  | cons e more =>
    have hne : (e :: more).map (entryText style (level + 1)) ≠ [] := by simp
    have hlength := length_bracketed style level '\x7b' '\x7d' hne
    have hhead := head_entryText style (level + 1) e
    have hstart := head_intercalate hhead (separator style (level + 1))
      (more.map (entryText style (level + 1)))
    rw [bracketed_append style level _ _ hne]
    refine readValue_fields hn ?_ ?_
    · rw [List.map_cons, skipSpace_inner hhead rfl, List.head?_append, hstart]
      simp
    · rw [List.map_cons, skipSpace_inner hhead rfl, ← List.map_cons]
      exact readFields_texts hs Style.isSpace_of_mem_lead _ fuel [] (by simp) h (by omega)

end

/-- **Every plain value reads back from its text.** -/
theorem readsBack_of_isPlain {style : Style} (hs : style.Spaced) (j : Json)
    (h : j.isPlain = true) : ReadsBack style j := by
  induction j using fromParts with
  | step j below =>
    cases j with
    | null =>
      refine .of_succ h fun level fuel rest _ _ => ?_
      rw [write, readValue_scalar (by simp), readWord_null, Option.some_or]
    | bool b =>
      refine .of_succ h fun level fuel rest _ _ => ?_
      have hword := readWord_bool b rest
      cases b <;> exact (readValue_scalar (by simp [write])).trans (hword ▸ rfl)
    | int n =>
      refine .of_succ h fun level fuel rest hrest _ => ?_
      obtain ⟨c, cs, hcs, hc⟩ := exists_head_intText n
      rw [write, readValue_scalar, readWord_intText, Option.none_or, readNumber_intText n hrest]
      rw [hcs]
      rintro _ ⟨⟩
      rcases hc with hc | rfl
      · refine ⟨?_, ?_, ?_⟩ <;> (rintro rfl; exact absurd hc (by decide))
      · decide
    | float x => simp [isPlain] at h
    | str s =>
      refine .of_succ h fun level fuel rest _ _ => ?_
      obtain ⟨body, hbody, hs⟩ := readQuoted_quote style.ascii s rest
      rw [write, hbody, readValue, hs]
      simp
    | arr items =>
      have hitems := arePlain_iff.mp h
      exact readsBack_arr hs fun k hk => ⟨hitems k hk, below k hk (hitems k hk)⟩
    | obj fields =>
      obtain ⟨hn, hvalues⟩ := isPlain_obj_iff.mp h
      exact readsBack_obj hs hn fun e he =>
        ⟨hvalues e he, below e.2 (List.mem_map_of_mem he) (hvalues e he)⟩

/-- **A plain value is what its text is read as.** -/
theorem read?_render {style : Style} (hs : style.Spaced) {j : Json} (h : j.isPlain = true) :
    read? (render style j) = some j := by
  obtain ⟨c, hhead, hc, -⟩ := exists_head_write style 0 h
  have hskip := skipSpace_of_head hhead hc []
  have hread := readsBack_of_isPlain hs j h 0 (2 * (write style 0 j).length + 2) [] .nil (by omega)
  rw [List.append_nil] at hskip hread
  simp only [read?, render, String.toList_ofList, hskip, hread]
  rfl

end PageSync.Json
