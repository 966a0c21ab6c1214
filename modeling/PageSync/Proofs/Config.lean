import PageSync.Config
import PageSync.Proofs.Text.Replacing
import PageSync.Text.Letter

/-!
# Proofs/Config — what a configuration shows of its token

Of a token nothing but a hint is shown, between marks that no word has (`toList_shown`).  So a word
that is shown stands in the hint, or it is shown for every token (`infix_shown_cases`).  The hint of
a token of four characters is the whole token (`token_shown_iff`).
-/

namespace PageSync

/-- A character of a word: a letter, a digit or an underscore. -/
def Text.isWordChar (c : Char) : Bool :=
  isAlphanumeric c || c == '_'

namespace Settings

/-- What is shown of a token that is too short for a hint. -/
theorem tokenHint_of_short {token : String} (h : token.toList.length < 4) :
    tokenHint token = "****" := by
  rw [tokenHint, if_neg (Nat.not_le.mpr h)]

/-- What is shown of any other token: its last four characters. -/
theorem toList_tokenHint {token : String} (h : 4 ≤ token.toList.length) :
    (tokenHint token).toList = '.' :: '.' :: '.' :: Text.takeLast 4 token.toList := by
  rw [tokenHint, if_pos h]
  simp

end Settings

namespace Config

/-- The same configuration with another token. -/
def withToken (c : Config) (token : String) : Config :=
  ⟨{ c.settings with token }, c.accepted⟩

/-- The texts of the entries behind the token. -/
def textsBehind (c : Config) (recorder : String) : List String :=
  c.settings.entries.tail.map fun (name, value) =>
    Settings.entryText (if c.settings.recordMetrics then some recorder else none) name value

/-- What is shown behind the hint of the token and its closing mark. -/
def shownBehind (c : Config) (recorder : String) : List Char :=
  [',', ' '] ++ [',', ' '].intercalate ((c.textsBehind recorder).map String.toList) ++ [')']

/-- **A hint of the token is shown** between two marks, and nothing else depends on the token. -/
theorem toList_shown (c : Config) (recorder : String) :
    (c.shown recorder).toList = "Drive2NotionConfig(token=".toList ++
      '\'' :: ((Settings.tokenHint c.settings.token).toList ++ '\'' :: c.shownBehind recorder) := by
  have hne : c.textsBehind recorder ≠ [] := List.cons_ne_nil _ _
  have hshown : c.shown recorder =
      "Drive2NotionConfig(" ++ ", ".intercalate (("token='" ++
        Settings.tokenHint c.settings.token ++ "'") :: c.textsBehind recorder) ++ ")" := rfl
  rw [hshown, String.intercalate_cons_of_ne_nil hne]
  simp [shownBehind, String.toList_intercalate]

/-- A word in what is shown stands in the hint, or is shown for every token. -/
theorem infix_shown_cases {c : Config} {recorder token : String} {word : List Char}
    (hquote : '\'' ∉ word) (h : word <:+: ((c.withToken token).shown recorder).toList) :
    word <:+: (Settings.tokenHint token).toList ∨
      ∀ other, word <:+: ((c.withToken other).shown recorder).toList := by
  have hbehind (other : String) :
      (c.withToken other).shownBehind recorder = c.shownBehind recorder := rfl
  rw [toList_shown, hbehind] at h
  simp only [toList_shown, hbehind]
  rcases Text.infix_of_infix_append_cons hquote h with h | h
  · exact .inr fun other => h.trans (List.prefix_append _ _).isInfix
  rcases Text.infix_of_infix_append_cons hquote h with h | h
  · exact .inl h
  · refine .inr fun other => h.trans ?_
    exact ⟨"Drive2NotionConfig(token=".toList ++
      '\'' :: ((Settings.tokenHint other).toList ++ ['\'']), [], by simp [withToken]⟩

/-- What is shown of a token, is shown. -/
theorem tokenHint_infix_shown (c : Config) (recorder : String) :
    (Settings.tokenHint c.settings.token).toList <:+: (c.shown recorder).toList := by
  rw [toList_shown]
  exact ⟨"Drive2NotionConfig(token=".toList ++ ['\''], '\'' :: c.shownBehind recorder, by simp⟩

/-- A token of four characters is its own hint. -/
theorem infix_shown_of_length (c : Config) (recorder : String)
    (h : c.settings.token.toList.length = 4) :
    c.settings.token.toList <:+: (c.shown recorder).toList := by
  refine .trans ?_ (tokenHint_infix_shown c recorder)
  rw [Settings.toList_tokenHint (Nat.le_of_eq h.symm), Text.takeLast, h]
  exact ⟨['.', '.', '.'], [], by simp⟩

/-- **A token that is a word, and is not shown anyway, is shown exactly if it has four
characters.** -/
theorem token_shown_iff (c : Config) (recorder : String)
    (hword : ∀ ch ∈ c.settings.token.toList, Text.isWordChar ch = true)
    (hapart : ¬ c.settings.token.toList <:+: ((c.withToken "").shown recorder).toList) :
    c.settings.token.toList <:+: (c.shown recorder).toList ↔
      c.settings.token.toList.length = 4 := by
  have hquote : '\'' ∉ c.settings.token.toList := fun h => absurd (hword _ h) (by decide)
  have hdot : '.' ∉ c.settings.token.toList := fun h => absurd (hword _ h) (by decide)
  refine ⟨fun h => ?_, infix_shown_of_length c recorder⟩
  have hhint := (infix_shown_cases hquote h).resolve_right fun hall => hapart (hall "")
  rcases Nat.lt_or_ge c.settings.token.toList.length 4 with hlt | hge
  · -- a short token has the hint of no token at all
    rw [Settings.tokenHint_of_short hlt] at hhint
    exact absurd (hhint.trans (tokenHint_infix_shown (c.withToken "") recorder)) hapart
  · -- what is behind the dots is no longer than four characters
    rw [Settings.toList_tokenHint hge] at hhint
    have hlast := Text.infix_of_infix_cons hdot
      (Text.infix_of_infix_cons hdot (Text.infix_of_infix_cons hdot hhint))
    have hle := hlast.length_le
    rw [Text.takeLast, List.length_drop] at hle
    omega

theorem accepted_default : Settings.default.check = .ok () := rfl

/-- The default settings with a token. -/
def bearing (token : String) : Config :=
  withToken ⟨.default, accepted_default⟩ token

/-- A long token is not shown. -/
theorem token_shown_iff_long :
    ¬ "secret_abcdefgh".toList <:+: ((bearing "secret_abcdefgh").shown "").toList := by
  have hapart : ¬ "secret_abcdefgh".toList <:+: (((bearing "secret_abcdefgh").withToken "").shown
      "").toList := by
    rw [toList_shown]
    decide +kernel
  have hword : ∀ ch ∈ "secret_abcdefgh".toList, Text.isWordChar ch = true :=
    List.all_eq_true.mp (by decide)
  exact fun h => absurd ((token_shown_iff (bearing "secret_abcdefgh") "" hword hapart).mp h)
    (by decide +kernel)

/-- **A token of four characters is shown.** -/
theorem short_token_shown :
    (∀ ch ∈ (bearing "abcd").settings.token.toList, Text.isWordChar ch = true) ∧
      ¬ "abcd".toList <:+: (((bearing "abcd").withToken "").shown "").toList ∧
        "abcd".toList <:+: ((bearing "abcd").shown "").toList := by
  refine ⟨List.all_eq_true.mp (by decide), ?_, infix_shown_of_length (bearing "abcd") "" rfl⟩
  rw [toList_shown]
  decide +kernel

end Config

end PageSync
