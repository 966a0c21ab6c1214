import Mathlib.Data.List.TakeWhile
import PageSync.Proofs.Text.Replacing
import PageSync.Redaction

/-!
# Proofs/Redaction/Patterns — what the patterns of a redaction find

A pattern is matched piece by piece, and each piece is split off the text (`eq_append_of_after`,
`eq_append_of_afterRun`).  A base64 data address has two names and data in it (`IsDataUri`), a
bearer credential is a scheme, blanks and a word (`IsCredential`); either is found wherever it
stands, and nothing else is.  The mask of a credential keeps the scheme and the blanks
(`bearerMask_eq`).
-/

namespace PageSync.Redaction

/-! ## Pieces -/

/-- A run of a class of characters that is not empty. -/
def IsRun (p : Char → Bool) (run : List Char) : Prop :=
  run ≠ [] ∧ ∀ c ∈ run, p c = true

/-- A text starts with the fixed text that it is read after. -/
theorem eq_append_of_after {start : String} {cs rest : List Char}
    (h : after start cs = some rest) : cs = start.toList ++ rest := by
  rw [after] at h
  split at h
  next hp =>
    obtain ⟨rest', rfl⟩ := List.isPrefixOf_iff_prefix.mp hp
    rw [← String.length_toList, List.drop_left] at h
    rw [Option.some.inj h]
  next => cases h

/-- A text starts with the run that it is read after: a run of the class that is not empty. -/
theorem eq_append_of_afterRun {p : Char → Bool} {cs rest : List Char}
    (h : afterRun p cs = some rest) : ∃ run, cs = run ++ rest ∧ IsRun p run := by
  cases cs with
  | nil => cases h
  | cons c cs =>
    rw [afterRun] at h
    split at h
    next hc =>
      obtain rfl := Option.some.inj h
      refine ⟨c :: cs.takeWhile p, ?_, List.cons_ne_nil _ _, ?_⟩
      · rw [List.cons_append, List.takeWhile_append_dropWhile]
      · exact List.forall_mem_cons.mpr ⟨hc, fun d hd => List.mem_takeWhile_imp hd⟩
    next => cases h

/-- A fixed text is read wherever it stands. -/
theorem after_append (start : String) (rest : List Char) :
    after start (start.toList ++ rest) = some rest := by
  rw [after, if_pos (List.isPrefixOf_iff_prefix.mpr (List.prefix_append _ rest)),
    ← String.length_toList, List.drop_left]

/-- A run is read wherever it stands, with all of its class that follows. -/
theorem afterRun_append {p : Char → Bool} {run : List Char} (h : IsRun p run) (rest : List Char) :
    afterRun p (run ++ rest) = some (rest.dropWhile p) := by
  obtain ⟨hne, hall⟩ := h
  cases run with
  | nil => exact absurd rfl hne
  | cons c run =>
    obtain ⟨hc, hrun⟩ := List.forall_mem_cons.mp hall
    rw [List.cons_append, afterRun, if_pos hc, List.dropWhile_append_of_pos hrun]

/-- A run ends at a character of another class. -/
theorem afterRun_append_cons {p : Char → Bool} {run rest : List Char} {c : Char} (h : IsRun p run)
    (hc : p c = false) : afterRun p (run ++ c :: rest) = some (c :: rest) := by
  rw [afterRun_append h, List.dropWhile_cons_of_neg (by simp [hc])]

/-! ## Data addresses -/

/-- **A base64 data address**: a media type of two names, and data. -/
def IsDataUri (cs : List Char) : Prop :=
  ∃ kind form data, IsRun isTypeChar kind ∧ IsRun isTypeChar form ∧ IsRun isBase64Char data ∧
    cs = "data:".toList ++ (kind ++ ("/".toList ++ (form ++ (";base64,".toList ++ data))))

/-- What is read as a data address is one. -/
theorem exists_dataUri {cs rest : List Char} (h : afterDataUri cs = some rest) :
    ∃ uri, IsDataUri uri ∧ cs = uri ++ rest := by
  obtain ⟨cs₅, h, hdata⟩ := Option.bind_eq_some_iff.mp h
  obtain ⟨cs₄, h, hmark⟩ := Option.bind_eq_some_iff.mp h
  obtain ⟨cs₃, h, hform⟩ := Option.bind_eq_some_iff.mp h
  obtain ⟨cs₂, h, hslash⟩ := Option.bind_eq_some_iff.mp h
  obtain ⟨cs₁, h, hkind⟩ := Option.bind_eq_some_iff.mp h
  obtain ⟨kind, rfl, kind_run⟩ := eq_append_of_afterRun hkind
  obtain ⟨form, rfl, form_run⟩ := eq_append_of_afterRun hform
  obtain ⟨data, rfl, data_run⟩ := eq_append_of_afterRun hdata
  obtain rfl := eq_append_of_after hslash
  obtain rfl := eq_append_of_after hmark
  refine ⟨_, ⟨kind, form, data, kind_run, form_run, data_run, rfl⟩, ?_⟩
  rw [eq_append_of_after h]
  simp only [List.append_assoc]

/-- **A data address is read wherever it stands**, with all data that follows. -/
theorem afterDataUri_append {uri : List Char} (h : IsDataUri uri) (rest : List Char) :
    afterDataUri (uri ++ rest) = some (rest.dropWhile isBase64Char) := by
  obtain ⟨kind, form, data, kind_run, form_run, data_run, rfl⟩ := h
  have hslash : ∀ cs, afterRun isTypeChar (kind ++ ("/".toList ++ cs)) = some ("/".toList ++ cs) :=
    fun _ => afterRun_append_cons kind_run (by decide)
  have hmark : ∀ cs, afterRun isTypeChar (form ++ (";base64,".toList ++ cs))
      = some (";base64,".toList ++ cs) :=
    fun _ => afterRun_append_cons form_run (by decide)
  simp only [afterDataUri, List.append_assoc, after_append, Option.bind_some, hslash, hmark,
    afterRun_append data_run]

theorem dataUriLength_le (cs : List Char) : dataUriLength cs ≤ cs.length := by
  rw [dataUriLength]
  split
  · exact Nat.sub_le _ _
  · exact Nat.zero_le _

/-- A text in which a data address is found begins with one. -/
theorem exists_dataUri_of_length {cs : List Char} (h : dataUriLength cs ≠ 0) :
    ∃ uri, IsDataUri uri ∧ uri <+: cs := by
  rw [dataUriLength] at h
  split at h
  next rest hrest =>
    obtain ⟨uri, huri, hcs⟩ := exists_dataUri hrest
    exact ⟨uri, huri, rest, hcs.symm⟩
  next => exact absurd rfl h

/-- A data address is long. -/
theorem IsDataUri.length_ge {uri : List Char} (h : IsDataUri uri) : 17 ≤ uri.length := by
  obtain ⟨kind, form, data, kind_run, form_run, data_run, rfl⟩ := h
  have hkind := List.length_pos_iff.mpr kind_run.1
  have hform := List.length_pos_iff.mpr form_run.1
  have hdata := List.length_pos_iff.mpr data_run.1
  have hfixed : "data:".length + "/".length + ";base64,".length = 14 := by decide
  simp only [List.length_append, String.length_toList]
  omega

/-- **A data address is found wherever it stands.** -/
theorem IsDataUri.found {uri : List Char} (h : IsDataUri uri) (rest : List Char) :
    dataUriLength (uri ++ rest) ≠ 0 := by
  have hlong := h.length_ge
  have hrest := (List.dropWhile_sublist isBase64Char (l := rest)).length_le
  rw [dataUriLength, afterDataUri_append h, List.length_append]
  dsimp only
  omega

/-- A data address is found as a whole. -/
theorem IsDataUri.length_eq {uri : List Char} (h : IsDataUri uri) :
    dataUriLength uri = uri.length := by
  have hread := afterDataUri_append h []
  rw [List.append_nil] at hread
  rw [dataUriLength, hread]
  rfl

/-! ## Bearer credentials -/

/-- **A bearer credential**: the scheme, some blanks, and a word. -/
def IsCredential (cs : List Char) : Prop :=
  ∃ blanks word, IsRun Text.isBlank blanks ∧ IsRun (fun c => !Text.isBlank c) word ∧
    cs = "Bearer".toList ++ (blanks ++ word)

/-- What is read as a bearer credential is one. -/
theorem exists_credential {cs rest : List Char}
    (h : (afterScheme cs).bind (afterRun fun c => !Text.isBlank c) = some rest) :
    ∃ credential, IsCredential credential ∧ cs = credential ++ rest := by
  obtain ⟨behind, hscheme, hword⟩ := Option.bind_eq_some_iff.mp h
  obtain ⟨start, hstart, hblanks⟩ := Option.bind_eq_some_iff.mp hscheme
  obtain ⟨blanks, rfl, blanks_run⟩ := eq_append_of_afterRun hblanks
  obtain ⟨word, rfl, word_run⟩ := eq_append_of_afterRun hword
  refine ⟨_, ⟨blanks, word, blanks_run, word_run, rfl⟩, ?_⟩
  rw [eq_append_of_after hstart]
  simp only [List.append_assoc]

/-- **A bearer credential is read wherever it stands**, with all of the word that follows. -/
theorem afterCredential_append {credential : List Char} (h : IsCredential credential)
    (rest : List Char) :
    (afterScheme (credential ++ rest)).bind (afterRun fun c => !Text.isBlank c) =
      some (rest.dropWhile fun c => !Text.isBlank c) := by
  obtain ⟨blanks, word, blanks_run, word_run, rfl⟩ := h
  have hblanks : afterRun Text.isBlank (blanks ++ (word ++ rest)) = some (word ++ rest) := by
    obtain ⟨word_ne, solid⟩ := word_run
    cases word with
    | nil => exact absurd rfl word_ne
    | cons c word => exact afterRun_append_cons blanks_run (by simpa using solid c)
  simp only [afterScheme, List.append_assoc, after_append, Option.bind_some, hblanks,
    afterRun_append word_run]

theorem bearerLength_le (cs : List Char) : bearerLength cs ≤ cs.length := by
  rw [bearerLength]
  split
  · exact Nat.sub_le _ _
  · exact Nat.zero_le _

/-- A text in which a bearer credential is found begins with one. -/
theorem exists_credential_of_length {cs : List Char} (h : bearerLength cs ≠ 0) :
    ∃ credential, IsCredential credential ∧ credential <+: cs := by
  rw [bearerLength] at h
  split at h
  next rest hrest =>
    obtain ⟨credential, hcredential, hcs⟩ := exists_credential hrest
    exact ⟨credential, hcredential, rest, hcs.symm⟩
  next => exact absurd rfl h

/-- **A bearer credential** is the scheme, some blanks, and a word. -/
theorem credential_of_bearerLength {hit rest : List Char} (hne : hit ≠ [])
    (h : bearerLength (hit ++ rest) = hit.length) : IsCredential hit := by
  rw [bearerLength] at h
  split at h
  next rest' hrest =>
    obtain ⟨credential, hcredential, hsplit⟩ := exists_credential hrest
    have hlen : hit.length = credential.length := by
      have := congrArg List.length hsplit
      simp only [List.length_append] at this h
      omega
    rwa [(List.append_inj hsplit hlen).1]
  next => exact absurd (List.length_eq_zero_iff.mp h.symm) hne

/-- **A bearer credential is found wherever it stands.** -/
theorem IsCredential.found {credential : List Char} (h : IsCredential credential)
    (rest : List Char) : bearerLength (credential ++ rest) ≠ 0 := by
  have hrest := (List.dropWhile_sublist (fun c => !Text.isBlank c) (l := rest)).length_le
  rw [bearerLength, afterCredential_append h, List.length_append]
  obtain ⟨blanks, word, blanks_run, -, rfl⟩ := h
  have hblanks := List.length_pos_iff.mpr blanks_run.1
  simp only [List.length_append]
  omega

/-- A bearer credential is found as a whole. -/
theorem IsCredential.length_eq {credential : List Char} (h : IsCredential credential) :
    bearerLength credential = credential.length := by
  have hread := afterCredential_append h []
  rw [List.append_nil] at hread
  rw [bearerLength, hread]
  rfl

/-- The mask of a bearer credential keeps the scheme and the blanks. -/
theorem bearerMask_eq {blanks word : List Char} (hblanks : IsRun Text.isBlank blanks)
    (hword : IsRun (fun c => !Text.isBlank c) word) :
    bearerMask ("Bearer".toList ++ (blanks ++ word)) =
      "Bearer".toList ++ (blanks ++ masked.toList) := by
  have none_of_word : word.takeWhile Text.isBlank = [] := by
    cases word with
    | nil => rfl
    | cons c cs => exact List.takeWhile_cons_of_neg (by simpa using hword.2 c)
  change "Bearer".toList ++ (("Bearer".toList ++ (blanks ++ word)).drop
    "Bearer".toList.length).takeWhile Text.isBlank ++ masked.toList = _
  rw [List.drop_left, List.takeWhile_append_of_pos hblanks.2, none_of_word, List.append_nil,
    List.append_assoc]

theorem replaced_maskBearers (cs : List Char) :
    Text.Replaced bearerLength bearerMask cs (maskBearers cs) :=
  Text.replaced bearerLength_le cs

/-- **Masking bearer credentials brings no text about** that the mask bars. -/
theorem not_infix_maskBearers {needle cs : List Char} (hbars : Text.Bars masked.toList needle)
    (hcs : ¬ needle <:+: cs) : ¬ needle <:+: maskBearers cs := by
  refine (replaced_maskBearers cs).absent (fun hit rest hne hlen => ?_) hcs
  obtain ⟨blanks, word, hblanks, hword, rfl⟩ := credential_of_bearerLength hne hlen
  refine ⟨"Bearer".toList ++ blanks, masked.toList, ?_, ?_, hbars⟩
  · rw [bearerMask_eq hblanks hword, List.append_assoc]
  · exact ⟨word, List.append_assoc ..⟩

/-! ## The token -/

/-- The mask that shows the end of a token. -/
def maskShowing (ending : List Char) : List Char :=
  '<' :: (("redacted:...".toList ++ ending) ++ ['>'])

theorem masked_eq : masked.toList = '<' :: ("redacted".toList ++ ['>']) := by
  simp [masked]

/-- **What stands for a token** shows four characters of it at most, and shows none where the token
would stand in that. -/
theorem tokenMask_cases (token : List Char) :
    ∃ ending, ending.length ≤ 4 ∧ (∀ c ∈ ending, c = '*' ∨ c ∈ token) ∧
      ((token <:+: maskShowing ending ∧ tokenMask token = masked.toList) ∨
        (¬ token <:+: maskShowing ending ∧ tokenMask token = maskShowing ending)) := by
  refine ⟨if token.length ≥ 4 then Text.takeLast 4 token else "****".toList, ?_, ?_, ?_⟩
  · split
    · rw [Text.takeLast, List.length_drop]
      omega
    · decide
  · intro c hc
    split at hc
    · exact .inr ((List.drop_sublist _ token).subset hc)
    · exact .inl (by simpa using hc)
  · simp only [tokenMask]
    generalize (if token.length ≥ 4 then Text.takeLast 4 token else "****".toList) = ending
    have hshown : "<redacted:...".toList ++ ending ++ ">".toList = maskShowing ending := by
      simp [maskShowing]
    rw [hshown, ← Text.occursIn_iff]
    split
    next h => exact .inl ⟨h, rfl⟩
    next h => exact .inr ⟨h, rfl⟩

theorem tokenMask_ne_nil (token : List Char) : tokenMask token ≠ [] := by
  obtain ⟨ending, -, -, ⟨-, hmask⟩ | ⟨-, hmask⟩⟩ := tokenMask_cases token
  · rw [hmask, masked_eq]
    exact List.cons_ne_nil _ _
  · rw [hmask]
    exact List.cons_ne_nil _ _

/-! ## Sensitive values -/

/-- **What stands for a sensitive value**: a mask, but for a string at whose start a bearer
credential is found. -/
theorem redactSensitive_cases (token : Option String) (j : Json) :
    ((∀ s, j = .str s → bearerLength s.toList = 0) ∧ redactSensitive token j = .str masked) ∨
      ∃ s, j = .str s ∧ bearerLength s.toList ≠ 0 ∧
        redactSensitive token j = .str (redactCredential token s) := by
  cases j with
  | str s =>
    rw [redactSensitive]
    split
    next hzero =>
      refine .inl ⟨?_, rfl⟩
      rintro _ ⟨⟩
      exact hzero
    next hfound => exact .inr ⟨s, rfl, hfound, rfl⟩
  | null | bool _ | int _ | float _ | arr _ | obj _ => exact .inl ⟨nofun, rfl⟩

/-- What stands for a sensitive value is a string. -/
theorem exists_str_redactSensitive (token : Option String) (j : Json) :
    ∃ s, redactSensitive token j = .str s := by
  rcases redactSensitive_cases token j with ⟨-, h⟩ | ⟨s, -, -, h⟩
  · exact ⟨masked, h⟩
  · exact ⟨redactCredential token s, h⟩

end PageSync.Redaction
