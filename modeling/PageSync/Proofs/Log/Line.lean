import PageSync.Log.Record
import PageSync.Proofs.Json.Ascii

/-!
# Proofs/Log/Line — the line of a record is faithful

A record has a text for its exception and one for its stack, and `shown` lists what its line is to
hold: the fixed entries, its own ones with the text in place of the value where it has one, and the
texts whose name is not among them.  The entries that are written are these (`entries_eq_shown`);
they have different names and plain values, so the line reads back as them (`line_reads_back`).
-/

namespace PageSync.Log.Record

/-- The names under which a record may have a text of its own. -/
def textNames : List String :=
  ["exception", "stack_info"]

/-- **The text that a record has under a name**; an empty stack is none. -/
def textOf? (r : Record) (name : String) : Option String :=
  if name = "exception" then r.exception
  else if name = "stack_info" then r.stack.filter (· ≠ "")
  else none

/-- The entries that are given to a record and are not taken by the fixed ones. -/
def given (r : Record) : Fields :=
  r.extra.filter fun (name, _) => !fixedNames.contains name

/-- A given entry, with the text that the record has under its name. -/
def withText (r : Record) (e : String × Json) : String × Json :=
  (e.1, ((r.textOf? e.1).map Json.str).getD e.2)

/-- A text as an entry behind others; there is none where one of them has its name. -/
def behind (fields : Fields) (name : String) (text? : Option String) : Fields :=
  if name ∈ fields.names then [] else (text?.map fun text => (name, Json.str text)).toList

/-- The texts of a record that are not under a name of its given entries. -/
def textsBehind (r : Record) : Fields :=
  textNames.flatMap fun name => behind r.given name (r.textOf? name)

/-- **What the line of a record is to hold**: the fixed entries, the given ones in their order, and
the texts that are not among them. -/
def shown (r : Record) (time : String) : Fields :=
  r.fixed time ++ r.given.map r.withText ++ r.textsBehind

/-! ## The entries that are written -/

theorem mem_behind_iff {fields : Fields} {name : String} {text? : Option String}
    {e : String × Json} : e ∈ behind fields name text? ↔
      name ∉ fields.names ∧ ∃ text, text? = some text ∧ e = (name, Json.str text) := by
  rw [behind]
  split
  next hmem => simp [hmem]
  next hmem => cases text? <;> simp [hmem]

/-- What comes behind entries has a name that they do not have. -/
theorem mem_names_behind {fields : Fields} {name k : String} {text? : Option String}
    (hk : k ∈ (behind fields name text?).names) : k = name ∧ name ∉ fields.names := by
  obtain ⟨e, he, rfl⟩ := List.mem_map.mp hk
  obtain ⟨hnot, text, -, rfl⟩ := mem_behind_iff.mp he
  exact ⟨rfl, hnot⟩

theorem names_behind_nodup (fields : Fields) (name : String) (text? : Option String) :
    (behind fields name text?).names.Nodup := by
  rw [behind]
  split
  · exact List.nodup_nil
  · cases text? with
    | none => exact List.nodup_nil
    | some text => exact List.pairwise_singleton _ name

/-- **Setting a text changes the entry of its name**, or comes behind. -/
theorem setText_eq {fields : Fields} (hn : fields.names.Nodup) (name : String)
    (text? : Option String) :
    setText fields name text? =
      fields.map (fun e => (e.1, if e.1 = name then (text?.map Json.str).getD e.2 else e.2)) ++
        behind fields name text? := by
  cases text? with
  | none => simp [setText, behind]
  | some text =>
    by_cases hmem : name ∈ fields.names
    · simp [setText, behind, Fields.set_of_mem _ hn hmem, hmem]
    · have hother := Fields.map_of_not_mem hmem fun _ => Json.str text
      simp [setText, behind, Fields.set_of_not_mem _ hmem, hmem, hother]

theorem names_setText {fields : Fields} (hn : fields.names.Nodup) (name : String)
    (text? : Option String) :
    (setText fields name text?).names = fields.names ++ (behind fields name text?).names := by
  rw [setText_eq hn, Fields.names, List.map_append, List.map_map]
  rfl

theorem names_setText_nodup {fields : Fields} (hn : fields.names.Nodup) (name : String)
    (text? : Option String) : (setText fields name text?).names.Nodup := by
  rw [names_setText hn, List.nodup_append]
  refine ⟨hn, names_behind_nodup fields name text?, fun k hk l hl heq => ?_⟩
  obtain ⟨rfl, hnot⟩ := mem_names_behind hl
  exact hnot (heq ▸ hk)

/-- A text that is set changes no other name. -/
theorem mem_names_setText_iff {fields : Fields} (hn : fields.names.Nodup) {name other : String}
    (hne : other ≠ name) (text? : Option String) :
    other ∈ (setText fields name text?).names ↔ other ∈ fields.names := by
  rw [names_setText hn, List.mem_append]
  exact or_iff_left fun hmem => hne (mem_names_behind hmem).1

variable {r : Record}

theorem names_given_nodup (h : r.extra.names.Nodup) : r.given.names.Nodup :=
  h.sublist (List.filter_sublist.map _)

theorem textsBehind_eq (r : Record) : r.textsBehind = behind r.given "exception" r.exception ++
    behind r.given "stack_info" (r.stack.filter (· ≠ "")) := by
  simp [textsBehind, textNames, textOf?]

theorem own_eq_setText (r : Record) : r.own = setText (setText r.given "exception" r.exception)
    "stack_info" (r.stack.filter (· ≠ "")) := rfl

/-- **The entries that are written are the ones to be shown.** -/
theorem entries_eq_shown (h : r.extra.names.Nodup) (time : String) :
    r.entries time = r.shown time := by
  have hgiven := names_given_nodup h
  have hset := names_setText_nodup hgiven "exception" r.exception
  have hother : "stack_info" ∉ (behind r.given "exception" r.exception).names :=
    fun hmem => absurd (mem_names_behind hmem).1 (by decide)
  have hbehind : behind (setText r.given "exception" r.exception) "stack_info"
      = behind r.given "stack_info" := by
    funext text?
    simp only [behind, mem_names_setText_iff hgiven (show "stack_info" ≠ "exception" by decide)]
  have hown : r.own = r.given.map r.withText ++ r.textsBehind := by
    rw [own_eq_setText, setText_eq hset, hbehind, setText_eq hgiven, List.map_append, List.map_map,
      Fields.map_of_not_mem hother fun value => ((r.stack.filter (· ≠ "")).map Json.str).getD value,
      textsBehind_eq, List.append_assoc]
    congr 1
    refine List.map_congr_left fun e _ => ?_
    by_cases hname : e.1 = "exception"
    · simp [withText, textOf?, hname]
    · by_cases hstack : e.1 = "stack_info" <;> simp [withText, textOf?, hname, hstack]
  rw [entries, shown, hown, List.append_assoc]

/-! ## The line -/

/-- Own entries have other names than the fixed ones. -/
theorem not_mem_fixedNames_of_mem_own (h : r.extra.names.Nodup) :
    ∀ k ∈ r.own.names, k ∉ fixedNames := by
  intro k hk
  have hgiven := names_given_nodup h
  rw [own_eq_setText, names_setText (names_setText_nodup hgiven _ _), names_setText hgiven] at hk
  rcases List.mem_append.mp hk with hk | hk
  · rcases List.mem_append.mp hk with hk | hk
    · obtain ⟨e, he, rfl⟩ := List.mem_map.mp hk
      simpa using (List.mem_filter.mp he).2
    · obtain ⟨rfl, -⟩ := mem_names_behind hk
      decide
  · obtain ⟨rfl, -⟩ := mem_names_behind hk
    decide

theorem names_entries_nodup (h : r.extra.names.Nodup) (time : String) :
    (r.entries time).names.Nodup := by
  have hgiven := names_given_nodup h
  rw [entries, Fields.names, List.map_append, List.nodup_append]
  refine ⟨(by decide : fixedNames.Nodup), ?_, fun k hk l hl heq => ?_⟩
  · exact names_setText_nodup (names_setText_nodup hgiven _ _) _ _
  · exact not_mem_fixedNames_of_mem_own h l hl (heq ▸ hk)

/-- What is shown is plain when what is given is. -/
theorem isPlain_shown (h : (Json.obj r.extra).isPlain = true) (time : String) :
    (Json.obj (r.shown time)).isPlain = true := by
  obtain ⟨hn, hvalues⟩ := Json.isPlain_obj_iff.mp h
  refine Json.isPlain_obj_iff.mpr ⟨entries_eq_shown hn time ▸ names_entries_nodup hn time, ?_⟩
  refine List.forall_mem_append.mpr ⟨List.forall_mem_append.mpr ⟨?_, ?_⟩, ?_⟩
  · simp [fixed, Json.isPlain]
  · rw [List.forall_mem_map]
    intro e he
    rw [withText]
    cases r.textOf? e.1 with
    | none => exact hvalues e (List.mem_of_mem_filter he)
    | some text => rfl
  · intro e he
    obtain ⟨name, -, he⟩ := List.mem_flatMap.mp he
    obtain ⟨-, text, -, rfl⟩ := mem_behind_iff.mp he
    rfl

theorem spaced_line : Json.Style.line.Spaced where
  colon := ⟨[' '], rfl, List.forall_mem_singleton.mpr rfl⟩
  comma := ⟨[' '], rfl, List.forall_mem_singleton.mpr rfl⟩

theorem oneLine_line : Json.Style.line.OneLine where
  ascii := rfl
  colon := List.all_eq_true.mp rfl
  comma := List.all_eq_true.mp rfl
  indent := rfl

/-- **The line of a record is one line of printable ASCII, and reads back as what it is to hold**:
given entries have different names and, at any depth, whole numbers only. -/
theorem line_reads_back (r : Record) (time : String) (h : (Json.obj r.extra).isPlain = true) :
    (∀ c ∈ (r.line time).toList, Json.isPrintable c = true) ∧
      Json.read? (r.line time) = some (.obj (r.shown time)) := by
  have hplain := isPlain_shown h time
  rw [line, entries_eq_shown (Json.isPlain_obj_iff.mp h).1]
  refine ⟨?_, Json.read?_render spaced_line hplain⟩
  rw [Json.render, String.toList_ofList]
  exact Json.isPrintable_of_mem_write oneLine_line _ hplain 0

/-- A record with a text for its exception, an empty stack, and entries that have the names of a
fixed one and of both texts. -/
def collision : Record where
  logger := "page"
  level := warning
  message := "a\n\u2028😀"
  extra := [("stack_info", .null), ("ts", .int 1), ("exception", .bool true),
    ("é", .arr [.int (-3), .obj [("ts", .str "\t")]])]
  exception := some "boom"
  stack := some ""

/-- The text for the exception stands in its place, and the entry `ts` is not written. -/
theorem line_reads_back_collision :
    (∀ c ∈ (collision.line "now").toList, Json.isPrintable c = true) ∧
      Json.read? (collision.line "now") = some (.obj [("ts", .str "now"), ("level", .str "WARNING"),
        ("logger", .str "page"), ("message", .str "a\n\u2028😀"), ("stack_info", .null),
        ("exception", .str "boom"), ("é", .arr [.int (-3), .obj [("ts", .str "\t")]])]) :=
  line_reads_back collision "now" (by decide)

end PageSync.Log.Record
