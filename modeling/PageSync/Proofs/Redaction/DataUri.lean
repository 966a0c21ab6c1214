import PageSync.Proofs.Redaction.Shape

/-!
# Proofs/Redaction/DataUri — no data address is shown

A data address has no angle bracket, so it cannot reach into a mask, and none fits between the
brackets of one: there is no slash in the mask of a data address, and the mask of a token is too
short.  So every mask bars every data address (`bars_dataUriMask`, `bars_tokenMask_of_dataUri`):
what replaces the data addresses of a string leaves none of them, and what is put for the token and
for bearer credentials afterwards brings none about (`no_data_uri_shown`).
-/

namespace PageSync.Redaction

open Text (Bars)

/-! ## Masks bar data addresses -/

/-- No angle bracket stands in a data address. -/
theorem IsDataUri.not_mem {uri : List Char} (h : IsDataUri uri) {c : Char}
    (hc : c = '<' ∨ c = '>') : c ∉ uri := by
  obtain ⟨kind, form, data, kind_run, form_run, data_run, rfl⟩ := h
  have hclass : isTypeChar c = false ∧ isBase64Char c = false := by
    rcases hc with rfl | rfl <;> decide
  have hfixed : c ∉ "data:".toList ∧ c ∉ "/".toList ∧ c ∉ ";base64,".toList := by
    rcases hc with rfl | rfl <;> decide
  have hkind : c ∉ kind := fun hmem => by simp [kind_run.2 c hmem] at hclass
  have hform : c ∉ form := fun hmem => by simp [form_run.2 c hmem] at hclass
  have hdata : c ∉ data := fun hmem => by simp [data_run.2 c hmem] at hclass
  simp only [List.mem_append, hfixed, hkind, hform, hdata, or_self, not_false_eq_true]

/-- Angle brackets around a text in which a data address does not stand bar it. -/
theorem IsDataUri.bars {uri mid : List Char} (h : IsDataUri uri) (hmid : ¬ uri <:+: mid) :
    Bars ('<' :: (mid ++ ['>'])) uri :=
  .of_fence (h.not_mem (.inl rfl)) (h.not_mem (.inr rfl)) hmid

/-- No slash and no capital stands in the mask of a data address. -/
theorem not_mem_dataUriMask {c : Char} (hc : c = '/' ∨ c = 'B') (hit : List Char) :
    c ∉ dataUriMask hit := by
  change c ∉ "<data_uri:".toList ++ Json.intText hit.length ++ "_chars>".toList
  have hfixed : c ∉ "<data_uri:".toList ∧ c ∉ "_chars>".toList ∧
      ¬ (c.isDigit = true ∨ c = '-') := by
    rcases hc with rfl | rfl <;> decide
  have hdigits : c ∉ Json.intText hit.length :=
    fun hmem => hfixed.2.2 (Json.isDigit_or_minus_of_mem_intText hmem)
  simp only [List.mem_append, hfixed, hdigits, or_self, not_false_eq_true]

/-- Every data address has a slash, and its mask has none. -/
theorem IsDataUri.bars_dataUriMask {uri : List Char} (h : IsDataUri uri) (hit : List Char) :
    Bars (dataUriMask hit) uri := by
  obtain ⟨mid, hmid⟩ : ∃ mid, dataUriMask hit = '<' :: (mid ++ ['>']) := by
    refine ⟨"data_uri:".toList ++ Json.intText hit.length ++ "_chars".toList, ?_⟩
    change "<data_uri:".toList ++ Json.intText hit.length ++ "_chars>".toList = _
    generalize Json.intText hit.length = digits
    simp
  have hslash : '/' ∈ uri := by
    obtain ⟨kind, form, data, -, -, -, rfl⟩ := h
    simp
  have hnone := not_mem_dataUriMask (.inl rfl) hit
  rw [hmid] at hnone ⊢
  exact h.bars fun hin => hnone (List.mem_cons_of_mem _ (List.mem_append_left _
    (hin.subset hslash)))

/-- A mask that is shorter than every data address. -/
theorem IsDataUri.bars_of_short {uri mid : List Char} (h : IsDataUri uri)
    (hshort : mid.length < 17) : Bars ('<' :: (mid ++ ['>'])) uri :=
  h.bars fun hin => absurd (h.length_ge.trans hin.length_le) (Nat.not_le.mpr hshort)

theorem IsDataUri.bars_masked {uri : List Char} (h : IsDataUri uri) : Bars masked.toList uri := by
  rw [masked_eq]
  exact h.bars_of_short (by decide)

/-- What stands for a token shows four of its characters at most. -/
theorem IsDataUri.bars_tokenMask {uri : List Char} (h : IsDataUri uri) (token : List Char) :
    Bars (tokenMask token) uri := by
  obtain ⟨ending, hlength, -, ⟨-, hmask⟩ | ⟨-, hmask⟩⟩ := tokenMask_cases token
  · rw [hmask]
    exact h.bars_masked
  · rw [hmask]
    refine h.bars_of_short ?_
    rw [List.length_append]
    exact Nat.lt_of_le_of_lt (Nat.add_le_add_left hlength _) (by decide)

/-! ## Strings -/

/-- **No data address is left** where data addresses are replaced. -/
theorem IsDataUri.not_infix_maskDataUris {uri : List Char} (h : IsDataUri uri) (cs : List Char) :
    ¬ uri <:+: maskDataUris cs :=
  Text.not_infix_replaceMatches (List.ne_nil_of_length_pos (Nat.lt_of_lt_of_le (by decide)
    h.length_ge)) dataUriLength_le h.found h.bars_dataUriMask cs

/-- **Masking the token brings no data address about.** -/
theorem IsDataUri.not_infix_maskToken {uri : List Char} (h : IsDataUri uri) (token : List Char)
    {cs : List Char} (hcs : ¬ uri <:+: cs) : ¬ uri <:+: maskToken token cs := by
  rw [maskToken]
  split
  next => exact hcs
  next =>
    refine (Text.replaced_replaceAll token _ cs).absent (fun hit rest _ _ => ?_) hcs
    exact ⟨[], tokenMask token, rfl, List.nil_prefix, h.bars_tokenMask token⟩

/-- **No data address is left** in a string that is shown. -/
theorem IsDataUri.not_infix_redactString {uri : List Char} (h : IsDataUri uri)
    (token : Option String) (s : String) : ¬ uri <:+: (redactString token s).toList := by
  have hnone := h.not_infix_maskDataUris s.toList
  rw [redactString]
  split
  next => rwa [String.toList_ofList]
  next =>
    rw [redactCredential, String.toList_ofList, String.toList_ofList]
    exact not_infix_maskBearers h.bars_masked (h.not_infix_maskToken _ hnone)

/-! ## A string that is a data address -/

/-- What is shown for a data address: its length, counted in characters. -/
def dataUriText (s : String) : String :=
  "<data_uri:" ++ toString s.length ++ "_chars>"

theorem dataUriMask_toList (s : String) : dataUriMask s.toList = (dataUriText s).toList := by
  have hdigits : Json.intText s.toList.length = (toString s.length).toList := by
    rw [Json.intText, if_neg (by omega), String.length_toList]
    exact String.toList_ofList.symm
  change "<data_uri:".toList ++ Json.intText s.toList.length ++ "_chars>".toList = _
  rw [hdigits, dataUriText, String.toList_append, String.toList_append]

/-- There is no bearer credential in what is shown for a data address. -/
theorem not_infix_dataUriText (s : String) {credential : List Char} (h : IsCredential credential) :
    ¬ credential <:+: (dataUriText s).toList := by
  intro hin
  have hcapital : 'B' ∈ credential := by
    obtain ⟨blanks, word, -, -, rfl⟩ := h
    simp
  rw [← dataUriMask_toList] at hin
  exact not_mem_dataUriMask (.inr rfl) s.toList (hin.subset hcapital)

/-- **A string that is a data address** is shown as its length, unless the token stands in that. -/
theorem redactString_of_dataUri {token : Option String} {s : String} (h : IsDataUri s.toList)
    (htoken : ¬ TokenIn token (dataUriText s).toList) : redactString token s = dataUriText s := by
  have hne : s.toList ≠ [] := by
    have := h.length_ge
    intro hnil
    simp [hnil] at this
  have hmask : maskDataUris s.toList = (dataUriText s).toList := by
    rw [maskDataUris, Text.replaceMatches_of_whole hne h.length_eq, dataUriMask_toList]
  rw [redactString, hmask, String.ofList_toList]
  split
  next => rfl
  next =>
    rw [redactCredential, maskToken_of_absent htoken,
      maskBearers_of_absent fun _ hc => not_infix_dataUriText s hc, String.ofList_toList]

/-- **No data address is shown.**  No string that stands under no sensitive name, at any depth of
what is shown, has a base64 data address in it, whatever the token is; and a string that is a data
address as a whole is shown as its length, unless the token stands in what would be shown. -/
theorem no_data_uri_shown (payload : Fields) (token : Option String) :
    Corresponds
      (fun s shown => (∀ uri, IsDataUri uri → ¬ uri <:+: shown.toList) ∧
        (IsDataUri s.toList → ¬ TokenIn token (dataUriText s).toList → shown = dataUriText s))
      (fun _ _ => True) (.obj payload) (.obj (redactFields token payload)) := by
  refine corresponds_redactFields (fun s => ⟨fun uri huri => ?_, ?_⟩) (fun _ => trivial) payload
  · exact huri.not_infix_redactString token s
  · exact redactString_of_dataUri

end PageSync.Redaction
