import PageSync.Proofs.Redaction.Shape

/-!
# Proofs/Redaction/Credential — what is shown of a value under a sensitive name

A value under a sensitive name is replaced by a mask, but for a string that begins with a bearer
credential: of that the token and all bearer credentials are masked, and what else stands in it is
shown.  So the scheme and its blanks are all that is left exactly when the string is nothing more
than one credential once the token is masked (`maskBearers_eq_iff`).  A token that has no blank and
is no part of the scheme does not matter for that (`maskToken_behind`), and then a second word
behind the scheme is shown (`concealed_iff`, `second_word_shown`).
-/

namespace PageSync.Redaction

/-! ## Values that are concealed -/

/-- **A text begins with a bearer credential**: its scheme, blanks, and something behind them. -/
structure BeginsBearer (cs blanks behind : List Char) : Prop where
  text : cs = "Bearer".toList ++ (blanks ++ behind)
  blanks_run : IsRun Text.isBlank blanks
  solid : ∃ c ∈ behind.head?, Text.isBlank c = false

/-- **A value is concealed** when a mask is shown for it or, where it is a string that begins with a
bearer credential, the scheme, the blanks behind that, and a mask. -/
def Concealed (j shown : Json) : Prop :=
  shown = .str masked ∨
    ∃ s blanks behind, j = .str s ∧ BeginsBearer s.toList blanks behind ∧
      shown = .str (String.ofList ("Bearer".toList ++ (blanks ++ masked.toList)))

/-- A text begins with a bearer credential exactly when one is found at its start. -/
theorem bearerLength_ne_zero_iff (cs : List Char) :
    bearerLength cs ≠ 0 ↔ ∃ blanks behind, BeginsBearer cs blanks behind := by
  constructor
  · intro h
    obtain ⟨_, ⟨blanks, word, hblanks, hword, rfl⟩, rest, rfl⟩ := exists_credential_of_length h
    refine ⟨blanks, word ++ rest, by simp only [List.append_assoc], hblanks, ?_⟩
    obtain ⟨hne, hsolid⟩ := hword
    cases word with
    | nil => exact absurd rfl hne
    | cons c word => exact ⟨c, rfl, by simpa using hsolid c⟩
  · rintro ⟨blanks, behind, rfl, hblanks, c, hc, hsolid⟩
    obtain ⟨rest, rfl⟩ := List.head?_eq_some_iff.mp hc
    have hword : IsRun (fun c => !Text.isBlank c) [c] :=
      ⟨List.cons_ne_nil c [], by simpa using hsolid⟩
    have hfound := IsCredential.found ⟨blanks, [c], hblanks, hword, rfl⟩ rest
    simpa only [List.append_assoc, List.singleton_append] using hfound

/-! ## Texts that are one credential -/

/-- The capital of the scheme stands at its start. -/
theorem scheme_eq : "Bearer".toList = 'B' :: "earer".toList := by
  decide

/-- No other capital stands in what is shown of a credential. -/
theorem capital_not_mem {blanks : List Char} (h : IsRun Text.isBlank blanks) :
    'B' ∉ "earer".toList ++ (blanks ++ masked.toList) := by
  have hblanks : 'B' ∉ blanks := fun hmem => absurd (h.2 'B' hmem) (by decide)
  have hfixed : 'B' ∉ "earer".toList ∧ 'B' ∉ masked.toList := by decide
  simp only [List.mem_append, hblanks, hfixed, or_self, not_false_eq_true]

/-- Nothing stands before the only place of a character, when it stands at the start. -/
theorem gap_eq_nil {c : Char} {gap x y : List Char} (h : gap ++ c :: x = c :: y) (hy : c ∉ y) :
    gap = [] := by
  cases gap with
  | nil => rfl
  | cons d gap =>
    obtain ⟨-, rfl⟩ := List.cons.inj h
    exact absurd (List.mem_append_right gap List.mem_cons_self) hy

/-- Blanks before a mask end where the mask begins. -/
theorem eq_of_blanks_masked {blanks blanks' out : List Char} (h : IsRun Text.isBlank blanks)
    (h' : IsRun Text.isBlank blanks')
    (heq : blanks' ++ (masked.toList ++ out) = blanks ++ masked.toList) :
    blanks' = blanks ∧ out = [] := by
  have hdrop := congrArg (List.dropWhile Text.isBlank) heq
  have hopen : ∀ cs, (masked.toList ++ cs).dropWhile Text.isBlank = masked.toList ++ cs := by
    intro cs
    rw [masked_eq, List.cons_append, List.dropWhile_cons_of_neg (by decide)]
  rw [List.dropWhile_append_of_pos h'.2, List.dropWhile_append_of_pos h.2, hopen,
    ← List.append_nil masked.toList, hopen, List.append_nil] at hdrop
  have hnil : out = [] := List.append_right_eq_self.mp hdrop
  subst hnil
  rw [List.append_nil] at heq
  exact ⟨List.append_cancel_right heq, rfl⟩

theorem bearerMask_ne_nil (hit : List Char) : bearerMask hit ≠ [] := by
  change "Bearer".toList ++ _ ++ _ ≠ []
  rw [scheme_eq]
  exact List.cons_ne_nil _ _

theorem IsCredential.ne_nil {credential : List Char} (h : IsCredential credential) :
    credential ≠ [] := by
  rintro rfl
  exact h.found [] rfl

/-- **The scheme, its blanks and a mask are what is shown of one credential**, and of no other
text. -/
theorem maskBearers_eq_iff {blanks : List Char} (hblanks : IsRun Text.isBlank blanks)
    (cs : List Char) :
    maskBearers cs = "Bearer".toList ++ (blanks ++ masked.toList) ↔
      ∃ word, IsRun (fun c => !Text.isBlank c) word ∧
        cs = "Bearer".toList ++ (blanks ++ word) := by
  have hmasked : IsRun (fun c => !Text.isBlank c) masked.toList := by
    rw [masked_eq]
    exact ⟨List.cons_ne_nil _ _, List.all_eq_true.mp (by decide)⟩
  constructor
  · intro h
    have hout := replaced_maskBearers cs
    generalize maskBearers cs = out at h hout
    cases hout with
    | nothing unfound =>
      -- here the mask is the word itself
      exact ⟨masked.toList, hmasked, h⟩
    | @found gap hit rest out unfound hit_ne length later =>
      obtain ⟨blanks', word, hblanks', hword, rfl⟩ := credential_of_bearerLength hit_ne length
      rw [bearerMask_eq hblanks' hword] at h
      have hgap : gap = [] := by
        have hcapital := h
        rw [scheme_eq] at hcapital
        exact gap_eq_nil hcapital (capital_not_mem hblanks)
      subst hgap
      rw [List.nil_append, List.append_assoc, List.append_assoc] at h
      obtain ⟨rfl, rfl⟩ := eq_of_blanks_masked hblanks hblanks' (List.append_cancel_left h)
      obtain rfl := later.eq_nil bearerMask_ne_nil rfl
      exact ⟨word, hword, List.append_nil _⟩
  · rintro ⟨word, hword, rfl⟩
    have hcredential : IsCredential ("Bearer".toList ++ (blanks ++ word)) :=
      ⟨blanks, word, hblanks, hword, rfl⟩
    rw [maskBearers, Text.replaceMatches_of_whole hcredential.ne_nil hcredential.length_eq,
      bearerMask_eq hblanks hword]

/-! ## Texts that are no more than a mask -/

/-- A mask alone is shown only of a mask: of a credential the scheme is shown. -/
theorem eq_masked_of_maskBearers {cs : List Char} (h : maskBearers cs = masked.toList) :
    cs = masked.toList := by
  have hout := replaced_maskBearers cs
  generalize maskBearers cs = out at h hout
  cases hout with
  | nothing => exact h
  | @found gap hit rest out unfound hit_ne length later =>
    obtain ⟨blanks, word, hblanks, hword, rfl⟩ := credential_of_bearerLength hit_ne length
    rw [bearerMask_eq hblanks hword, scheme_eq] at h
    have hcapital : 'B' ∈ masked.toList := by
      rw [← h]
      simp
    exact absurd hcapital (by decide)

/-- What begins with a bearer credential has at least eight characters, and is no mask. -/
theorem BeginsBearer.length_ge {cs blanks behind : List Char} (h : BeginsBearer cs blanks behind) :
    8 ≤ cs.length := by
  have hblanks := List.length_pos_iff.mpr h.blanks_run.1
  obtain ⟨c, hc, -⟩ := h.solid
  have hbehind := List.length_pos_iff.mpr (List.ne_nil_of_mem (List.mem_of_head? hc))
  have hscheme : "Bearer".toList.length = 6 := by decide
  rw [h.text, List.length_append, List.length_append]
  omega

theorem BeginsBearer.head {cs blanks behind : List Char} (h : BeginsBearer cs blanks behind) :
    ∃ rest, cs = 'B' :: rest :=
  ⟨"earer".toList ++ (blanks ++ behind), by rw [h.text, scheme_eq, List.cons_append]⟩

theorem BeginsBearer.ne_masked {cs blanks behind : List Char} (h : BeginsBearer cs blanks behind) :
    cs ≠ masked.toList := by
  obtain ⟨rest, rfl⟩ := h.head
  rw [masked_eq]
  exact fun heq => absurd (List.cons.inj heq).1 (by decide)

/-- **A token cannot take up all of a bearer credential** and leave a mask alone: what stands for so
long a token shows the end of it. -/
theorem BeginsBearer.maskToken_ne {cs blanks behind : List Char} (h : BeginsBearer cs blanks behind)
    (token : List Char) : maskToken token cs ≠ masked.toList := by
  rw [maskToken]
  split
  next => exact h.ne_masked
  next =>
    intro heq
    have hout := Text.replaced_replaceAll token (tokenMask token) cs
    generalize Text.replaceAll token (tokenMask token) cs = out at heq hout
    cases hout with
    | nothing => exact h.ne_masked heq
    | @found gap hit rest out unfound hit_ne length later =>
      obtain rfl := Text.eq_of_literalLength hit_ne length
      obtain ⟨behind, hhead⟩ := h.head
      have hlong := h.length_ge
      cases gap with
      | cons c gap =>
        rw [masked_eq] at heq
        have hcapital : c = 'B' := (List.cons.inj hhead).1
        have hbracket : c = '<' := (List.cons.inj heq).1
        exact absurd (hcapital.symm.trans hbracket) (by decide)
      | nil =>
        rw [List.nil_append] at heq hhead hlong
        obtain ⟨ending, hending, -, ⟨hin, hmask⟩ | ⟨-, hmask⟩⟩ := tokenMask_cases hit
        · -- the token is the whole text, and too long to stand in the end of itself
          rw [hmask] at heq
          obtain rfl := later.eq_nil (fun _ => hmask ▸ by decide) (List.append_right_eq_self.mp heq)
          rw [List.append_nil] at hhead hlong
          rw [hhead] at hin
          have hend : 'B' :: behind <:+: ending ++ ['>'] := by
            refine Text.infix_of_infix_append (x := "<redacted:...".toList) (by decide) ?_
            simpa [maskShowing] using hin
          have hshort := hend.length_le
          rw [hhead] at hlong
          rw [List.length_append, List.length_singleton] at hshort
          omega
        · rw [hmask] at heq
          simp [maskShowing, masked] at heq

/-! ## What is left behind the scheme -/

/-- A text begins with one bearer credential at most. -/
theorem BeginsBearer.unique {cs blanks blanks' behind behind' : List Char}
    (h : BeginsBearer cs blanks behind) (h' : BeginsBearer cs blanks' behind') :
    blanks' = blanks ∧ behind' = behind := by
  have hsplit : ∀ {blanks behind}, BeginsBearer cs blanks behind →
      (cs.drop "Bearer".toList.length).span Text.isBlank = (blanks, behind) := by
    intro blanks behind h
    obtain ⟨c, hc, hsolid⟩ := h.solid
    obtain ⟨rest, rfl⟩ := List.head?_eq_some_iff.mp hc
    have hopen : ¬ Text.isBlank c = true := by simp [hsolid]
    rw [h.text, List.drop_left, List.span_eq_takeWhile_dropWhile,
      List.takeWhile_append_of_pos h.blanks_run.2, List.dropWhile_append_of_pos h.blanks_run.2,
      List.takeWhile_cons_of_neg hopen, List.dropWhile_cons_of_neg hopen, List.append_nil]
  exact Prod.mk.inj ((hsplit h').symm.trans (hsplit h))

/-- Where a value is a string that begins with a bearer credential, it is **one word behind the
scheme once the token is masked**, with the same blanks before it. -/
def OneWordWhenMasked (token : Option String) (j : Json) : Prop :=
  ∀ s blanks behind, j = .str s → BeginsBearer s.toList blanks behind →
    ∃ word, IsRun (fun c => !Text.isBlank c) word ∧
      maskToken (knownToken token) s.toList = "Bearer".toList ++ (blanks ++ word)

/-- **A value under a sensitive name is concealed** exactly when one word is behind the scheme. -/
theorem concealed_redactSensitive_iff (token : Option String) (j : Json) :
    Concealed j (redactSensitive token j) ↔ OneWordWhenMasked token j := by
  rcases redactSensitive_cases token j with ⟨hnone, hmask⟩ | ⟨s, rfl, hfound, hcredential⟩
  · refine ⟨fun _ => ?_, fun _ => .inl hmask⟩
    rintro s blanks behind rfl h
    exact absurd (hnone s rfl) ((bearerLength_ne_zero_iff _).mpr ⟨blanks, behind, h⟩)
  · obtain ⟨blanks, behind, h⟩ := (bearerLength_ne_zero_iff _).mp hfound
    rw [hcredential]
    constructor
    · rintro (hmask | ⟨_, blanks', behind', ⟨⟩, h', hshown⟩)
      · have hcs := congrArg String.toList (Json.str.inj hmask)
        rw [redactCredential, String.toList_ofList] at hcs
        exact absurd (eq_masked_of_maskBearers hcs) (h.maskToken_ne _)
      · have hcs := congrArg String.toList (Json.str.inj hshown)
        rw [redactCredential, String.toList_ofList, String.toList_ofList,
          maskBearers_eq_iff h'.blanks_run] at hcs
        rintro _ blanks'' behind'' ⟨⟩ h''
        rw [(h'.unique h'').1]
        exact hcs
    · intro hword
      refine .inr ⟨s, blanks, behind, rfl, h, ?_⟩
      rw [redactCredential, (maskBearers_eq_iff h.blanks_run _).mpr (hword s blanks behind rfl h)]

/-! ## Tokens without blanks -/

/-- A text has no blank when no blank is in it. -/
theorem solid_iff (cs : List Char) :
    (∀ c ∈ cs, Text.isBlank c = false) ↔ ∀ c, Text.isBlank c = true → c ∉ cs := by
  constructor
  · intro h c hc hmem
    exact absurd hc (by simp [h c hmem])
  · intro h c hmem
    by_contra hc
    exact h c (by simpa using hc) hmem

/-- A word is a text without blanks that is not empty. -/
theorem isWord_iff (cs : List Char) :
    IsRun (fun c => !Text.isBlank c) cs ↔ cs ≠ [] ∧ ∀ c ∈ cs, Text.isBlank c = false := by
  simp [IsRun]

/-- **A plain token** has no blank and is no part of the scheme; an unknown token is plain. -/
structure PlainToken (token : Option String) : Prop where
  solid : ∀ c ∈ knownToken token, Text.isBlank c = false
  not_in_scheme : ¬ TokenIn token "Bearer".toList

theorem plainToken_none : PlainToken none :=
  ⟨nofun, fun h => h.1 rfl⟩

namespace PlainToken

variable {token : Option String} (h : PlainToken token)

include h

/-- What stands for a plain token has no blank. -/
theorem not_mem_tokenMask {c : Char} (hc : Text.isBlank c = true) :
    c ∉ tokenMask (knownToken token) := by
  have hsolid : (maskShowing ['*'] ++ masked.toList).all (fun c => !Text.isBlank c) = true := by
    decide
  have hfree : c ∉ maskShowing ['*'] ++ masked.toList := fun hmem =>
    absurd hc (by simpa using List.all_eq_true.mp hsolid c hmem)
  obtain ⟨ending, -, hending, ⟨-, hmask⟩ | ⟨-, hmask⟩⟩ := tokenMask_cases (knownToken token)
  · rw [hmask]
    exact fun hmem => hfree (List.mem_append_right _ hmem)
  · have hshown : c ∉ ending := fun hmem => by
      rcases hending c hmem with rfl | hmem
      · exact absurd hc (by decide)
      · exact (solid_iff _).mp h.solid c hc hmem
    rw [hmask]
    simp only [maskShowing, List.mem_append, List.mem_cons] at hfree ⊢
    tauto

/-- **A blank parts the masking of a plain token.** -/
theorem maskToken_append_cons {c : Char} (hc : Text.isBlank c = true) (x y : List Char) :
    maskToken (knownToken token) (x ++ c :: y) =
      maskToken (knownToken token) x ++ c :: maskToken (knownToken token) y := by
  have hfree : c ∉ knownToken token := (solid_iff _).mp h.solid c hc
  simp only [maskToken]
  split
  next => rfl
  next hknown => exact Text.replaceAll_append_cons (mt List.isEmpty_iff.mpr hknown) hfree x y

/-- So do several of them. -/
theorem maskToken_append_blanks (x y : List Char) : ∀ {blanks : List Char},
    IsRun Text.isBlank blanks → maskToken (knownToken token) (x ++ (blanks ++ y)) =
      maskToken (knownToken token) x ++ (blanks ++ maskToken (knownToken token) y)
  | [], hblanks => absurd rfl hblanks.1
  | [c], hblanks => h.maskToken_append_cons (hblanks.2 c List.mem_cons_self) x y
  | c :: d :: blanks, hblanks => by
      obtain ⟨hc, hrest⟩ := List.forall_mem_cons.mp hblanks.2
      have hnil : maskToken (knownToken token) [] = [] := by
        rw [maskToken]
        split <;> rfl
      have ih := maskToken_append_blanks [] y ⟨List.cons_ne_nil d blanks, hrest⟩
      rw [hnil] at ih
      rw [List.cons_append, h.maskToken_append_cons hc]
      exact congrArg (maskToken (knownToken token) x ++ c :: ·) ih

/-- **What is behind the scheme is one word before a plain token is masked exactly when it is one
word afterwards.** -/
theorem isRun_maskToken_iff {behind : List Char} (hne : behind ≠ []) :
    IsRun (fun c => !Text.isBlank c) (maskToken (knownToken token) behind) ↔
      ∀ c ∈ behind, Text.isBlank c = false := by
  rw [maskToken]
  split
  next => rw [isWord_iff, and_iff_right hne]
  next =>
    have hout := Text.replaced_replaceAll (knownToken token) (tokenMask (knownToken token)) behind
    have hout_ne := mt (hout.eq_nil fun _ => tokenMask_ne_nil _) hne
    have hmem : ∀ c, Text.isBlank c = true →
        (c ∈ Text.replaceAll (knownToken token) (tokenMask (knownToken token)) behind ↔
          c ∈ behind) := by
      intro c hc
      refine hout.mem_iff fun hit rest hit_ne hlen => ?_
      obtain rfl := Text.eq_of_literalLength hit_ne hlen
      exact ⟨(solid_iff _).mp h.solid c hc, h.not_mem_tokenMask hc⟩
    rw [isWord_iff, solid_iff, solid_iff, and_iff_right hout_ne]
    exact forall_congr' fun c => imp_congr_right fun hc => not_congr (hmem c hc)

/-- Masking a plain token leaves the scheme and its blanks. -/
theorem maskToken_behind {blanks : List Char} (hblanks : IsRun Text.isBlank blanks)
    (behind : List Char) :
    maskToken (knownToken token) ("Bearer".toList ++ (blanks ++ behind)) =
      "Bearer".toList ++ (blanks ++ maskToken (knownToken token) behind) := by
  rw [h.maskToken_append_blanks _ _ hblanks, maskToken_of_absent h.not_in_scheme]

end PlainToken

/-! ## What is shown of a credential -/

/-- Where a value is a string that begins with a bearer credential, it is **one word behind the
scheme** as it stands. -/
def OneWord (j : Json) : Prop :=
  ∀ s blanks behind, j = .str s → BeginsBearer s.toList blanks behind →
    ∀ c ∈ behind, Text.isBlank c = false

/-- A plain token makes no difference to how many words are behind the scheme. -/
theorem PlainToken.oneWordWhenMasked_iff {token : Option String} (h : PlainToken token) (j : Json) :
    OneWordWhenMasked token j ↔ OneWord j := by
  have one_word : ∀ {cs blanks behind}, BeginsBearer cs blanks behind →
      ((∃ word, IsRun (fun c => !Text.isBlank c) word ∧
          maskToken (knownToken token) cs = "Bearer".toList ++ (blanks ++ word)) ↔
        ∀ c ∈ behind, Text.isBlank c = false) := by
    intro cs blanks behind hbearer
    obtain ⟨c, hc, -⟩ := hbearer.solid
    rw [hbearer.text, h.maskToken_behind hbearer.blanks_run,
      ← h.isRun_maskToken_iff (List.ne_nil_of_mem (List.mem_of_head? hc))]
    constructor
    · rintro ⟨word, hword, heq⟩
      rwa [List.append_cancel_left (List.append_cancel_left heq)]
    · exact fun hword => ⟨_, hword, rfl⟩
  constructor
  · intro hall s blanks behind hj hbearer
    exact (one_word hbearer).mp (hall s blanks behind hj hbearer)
  · intro hall s blanks behind hj hbearer
    exact (one_word hbearer).mpr (hall s blanks behind hj hbearer)

/-- **A value under a sensitive name is concealed exactly when one word is behind the scheme** of a
bearer credential at its start, once the token is masked.  A plain token, and so no token at all,
does not matter: then it is concealed exactly when no blank is behind the first word. -/
theorem concealed_iff (payload : Fields) (token : Option String) :
    Corresponds (fun _ _ => True)
      (fun j shown => (Concealed j shown ↔ OneWordWhenMasked token j) ∧
        (PlainToken token → (Concealed j shown ↔ OneWord j)))
      (.obj payload) (.obj (redactFields token payload)) := by
  refine corresponds_redactFields (fun _ => trivial) (fun j => ?_) payload
  have h := concealed_redactSensitive_iff token j
  exact ⟨h, fun hplain => h.trans (hplain.oneWordWhenMasked_iff j)⟩

/-- **A second word behind the scheme is shown.** -/
theorem second_word_shown :
    ¬ Corresponds (fun _ _ => True) Concealed (.obj [("Authorization", .str "Bearer abc def")])
      (.obj (redactFields none [("Authorization", .str "Bearer abc def")])) := by
  have two_words : ¬ OneWord (.str "Bearer abc def") := by
    intro h
    have hbearer : BeginsBearer "Bearer abc def".toList [' '] "abc def".toList :=
      ⟨by decide, ⟨by decide, List.forall_mem_singleton.mpr (by decide)⟩, 'a', by decide, by decide⟩
    exact absurd (h _ _ _ rfl hbearer ' ' (by decide)) (by decide)
  intro hall
  rw [redactFields, redactFields, if_pos (by decide +kernel)] at hall
  cases hall with
  | obj h =>
    obtain ⟨hentry, -⟩ := List.forall₂_cons.mp h
    cases hentry with
    | plain hs => exact absurd hs (by decide +kernel)
    | hidden _ hconcealed =>
      have hmasked := (concealed_redactSensitive_iff none _).mp hconcealed
      exact two_words ((plainToken_none.oneWordWhenMasked_iff _).mp hmasked)

end PageSync.Redaction
