import PageSync.Proofs.Redaction.Token

/-!
# Proofs/Redaction/Names — what a redaction does to names

Values are redacted, names are not.  The entries of a redacted value are those of the value, entry
by entry, but for what stands under a sensitive name (`entries_redactValue`): a sensitive value is
replaced as a whole, and the names inside it go with it.  So the names that are left are those that
can be reached under no sensitive name, and a token that is part of one of them is not masked
(`token_in_name_iff`, `token_left_in_name`).
-/

namespace PageSync.Redaction

/-- A redacted entry: its name, and what stands for its value. -/
def redactEntry (token : Option String) (entry : String × Json) : String × Json :=
  (entry.1, if isSensitive entry.1 then redactSensitive token entry.2
    else redactValue token entry.2)

theorem fst_redactEntry (token : Option String) (entry : String × Json) :
    (redactEntry token entry).1 = entry.1 := by
  rw [redactEntry]

/-- The names that could be shown in a redacted object: all that stand under no sensitive name. -/
def openNames (payload : Fields) : List String :=
  Fields.names ((Json.obj payload).entries fun name => !isSensitive name)

/-- What stands for a sensitive value has no entries. -/
theorem entries_redactSensitive (token : Option String) (admits : String → Bool) (j : Json) :
    (redactSensitive token j).entries admits = [] := by
  obtain ⟨s, h⟩ := exists_str_redactSensitive token j
  rw [h]
  rfl

/-- **The entries of a redacted value** are those of the value under no sensitive name, in order and
each of them redacted. -/
theorem entries_redactValue (token : Option String) (j : Json) :
    (redactValue token j).entries (fun _ => true) =
      (j.entries fun name => !isSensitive name).map (redactEntry token) := by
  induction j using Json.fromParts with
  | step j below =>
    cases j with
    | arr items =>
      rw [redactValue, redactItems_eq, Json.entries_arr, Json.entries_arr, List.flatMap_map,
        List.map_flatMap]
      exact List.flatMap_congr below
    | obj fields =>
      rw [redactValue, redactFields_eq, Json.entries_obj, Json.entries_obj, List.flatMap_map,
        List.map_flatMap]
      refine List.flatMap_congr fun entry hentry => ?_
      rw [List.map_cons, if_pos rfl]
      refine congrArg (redactEntry token entry :: ·) ?_
      cases hs : isSensitive entry.1 with
      | true => exact entries_redactSensitive token _ entry.2
      | false => exact below entry.2 (List.mem_map_of_mem hentry)
    | null | bool _ | int _ | float _ | str _ => rfl

/-- The names in a redacted object, at any depth. -/
theorem names_redactFields (token : Option String) (payload : Fields) :
    Fields.names ((Json.obj (redactFields token payload)).entries fun _ => true) =
      openNames payload := by
  have h := entries_redactValue token (.obj payload)
  rw [redactValue] at h
  rw [openNames, Fields.names, Fields.names, h, List.map_map]
  exact List.map_congr_left fun entry _ => fst_redactEntry token entry

/-- **When the token is in a name.**  A redacted object has, at any depth and in order, the names of
the payload that stand under no sensitive name.  So the token is in none of its names exactly when
it is in none of these. -/
theorem token_in_name_iff (payload : Fields) (token : String) :
    let redacted := Json.obj (redactFields (some token) payload)
    Fields.names (redacted.entries fun _ => true) = openNames payload ∧
      ((∀ fields, redacted.Holds (.obj fields) → ∀ name ∈ Fields.names fields,
          ¬ token.toList <:+: name.toList) ↔
        ∀ name ∈ openNames payload, ¬ token.toList <:+: name.toList) := by
  intro redacted
  have hnames : Fields.names (redacted.entries fun _ => true) = openNames payload :=
    names_redactFields (some token) payload
  refine ⟨hnames, ?_⟩
  rw [← hnames]
  constructor
  · intro h name hname
    obtain ⟨entry, hentry, rfl⟩ := List.mem_map.mp hname
    obtain ⟨fields, hfields, hmem⟩ := (Json.mem_entries_iff redacted entry).mp hentry
    exact h fields hfields entry.1 (List.mem_map_of_mem hmem)
  · intro h fields hfields name hname
    obtain ⟨entry, hmem, rfl⟩ := List.mem_map.mp hname
    have hentry := (Json.mem_entries_iff redacted entry).mpr ⟨fields, hfields, hmem⟩
    exact h entry.1 (List.mem_map_of_mem hentry)

/-- **A token is left in a name**: that of a property of a page, in which masks could hide it. -/
theorem token_left_in_name :
    let token := "ntn_1234abcd"
    let payload : Fields := [("properties", .obj [("Key ntn_1234abcd", .int 3)])]
    (token ≠ "" ∧ '<' ∉ token.toList ∧ '>' ∉ token.toList ∧
        ¬ token.toList <:+: "redacted".toList) ∧
      ∃ fields, (Json.obj (redactFields (some token) payload)).Holds (.obj fields) ∧
        ∃ name ∈ Fields.names fields, token.toList <:+: name.toList := by
  intro token payload
  refine ⟨by decide, [("Key ntn_1234abcd", .int 3)], ?_, "Key ntn_1234abcd", by decide, by decide⟩
  have hredacted : redactFields (some token) payload = payload := by decide +kernel
  rw [hredacted]
  exact .part (List.mem_singleton_self _) (.self _)

end PageSync.Redaction
