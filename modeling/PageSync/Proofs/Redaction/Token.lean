import PageSync.Proofs.Json.Parts
import PageSync.Proofs.Redaction.Patterns

/-!
# Proofs/Redaction/Token — the token stands in no redacted value

The masks begin and end with angle brackets.  A token without these can only stand in a mask or
beside it, and it stands in none when it is no part of the word between the brackets.  So every mask
bars the token, whatever stands around it, and what is put in place of the token, or of a bearer
credential, does not bring it back (`token_in_no_value`).
-/

namespace PageSync.Redaction

open Text (Bars)

/-- **A token that masks can hide**: it is not empty, has no angle bracket, and is no part of the
word in a mask. -/
structure Hideable (token : String) : Prop where
  ne_nil : token.toList ≠ []
  opening : '<' ∉ token.toList
  closing : '>' ∉ token.toList
  word : ¬ token.toList <:+: "redacted".toList

namespace Hideable

variable {token : String} (h : Hideable token)

include h

/-- Angle brackets around a text in which a token does not stand bar the token. -/
theorem bars {mid : List Char} (hmid : ¬ token.toList <:+: mid) :
    Bars ('<' :: (mid ++ ['>'])) token.toList :=
  .of_fence h.opening h.closing hmid

theorem bars_masked : Bars masked.toList token.toList := by
  rw [masked_eq]
  exact h.bars h.word

/-- The mask of a token bars it, though it may show the end of the token. -/
theorem bars_tokenMask : Bars (tokenMask token.toList) token.toList := by
  obtain ⟨ending, -, -, ⟨-, hmask⟩ | ⟨hno, hmask⟩⟩ := tokenMask_cases token.toList
  · rw [hmask]
    exact h.bars_masked
  · rw [hmask]
    exact h.bars fun hmid => hno (hmid.trans ⟨['<'], ['>'], by simp [maskShowing]⟩)

/-- **A token is in no text after it has been masked.** -/
theorem not_infix_maskToken (cs : List Char) :
    ¬ token.toList <:+: maskToken token.toList cs := by
  rw [maskToken, if_neg (mt List.isEmpty_iff.mp h.ne_nil)]
  exact Text.not_infix_replaceAll h.ne_nil h.bars_tokenMask cs

theorem not_infix_redactCredential (s : String) :
    ¬ token.toList <:+: (redactCredential (some token) s).toList := by
  rw [redactCredential, String.toList_ofList]
  exact not_infix_maskBearers h.bars_masked (h.not_infix_maskToken _)

theorem not_infix_redactString (s : String) :
    ¬ token.toList <:+: (redactString (some token) s).toList := by
  have known : ¬ (knownToken (some token)).isEmpty := mt List.isEmpty_iff.mp h.ne_nil
  rw [redactString, if_neg known]
  exact h.not_infix_redactCredential _

/-- What stands for a value under a sensitive name is a string without the token. -/
theorem exists_redactSensitive (j : Json) :
    ∃ s, redactSensitive (some token) j = .str s ∧ ¬ token.toList <:+: s.toList := by
  rcases redactSensitive_cases (some token) j with ⟨-, hmask⟩ | ⟨s, -, -, hcredential⟩
  · exact ⟨masked, hmask, h.bars_masked.absent h.ne_nil⟩
  · exact ⟨_, hcredential, h.not_infix_redactCredential s⟩

end Hideable

/-! ## Values -/

theorem redactItems_eq (token : Option String) (items : List Json) :
    redactItems token items = items.map (redactValue token) := by
  induction items with
  | nil => rfl
  | cons j rest ih => rw [redactItems, ih, List.map_cons]

/-- The values of a redacted object, each under its name. -/
theorem redactFields_eq (token : Option String) (fields : Fields) :
    redactFields token fields = fields.map fun entry =>
      (entry.1, if isSensitive entry.1 then redactSensitive token entry.2
        else redactValue token entry.2) := by
  induction fields with
  | nil => rfl
  | cons entry rest ih => rw [redactFields, ih, List.map_cons]

/-- The parts of a redacted value are redacted parts, or stand for sensitive ones. -/
theorem mem_parts_redactValue {token : Option String} {j k : Json}
    (hk : k ∈ (redactValue token j).parts) :
    ∃ l ∈ j.parts, k = redactValue token l ∨ k = redactSensitive token l := by
  cases j with
  | arr items =>
    rw [redactValue, Json.parts, redactItems_eq] at hk
    obtain ⟨l, hl, rfl⟩ := List.mem_map.mp hk
    exact ⟨l, hl, .inl rfl⟩
  | obj fields =>
    rw [redactValue, Json.parts, redactFields_eq, List.map_map] at hk
    obtain ⟨entry, hentry, rfl⟩ := List.mem_map.mp hk
    refine ⟨entry.2, List.mem_map_of_mem hentry, ?_⟩
    by_cases hs : isSensitive entry.1 <;> simp [hs]
  | null | bool _ | int _ | float _ | str _ => exact absurd hk List.not_mem_nil

/-- **The token is in no string of a redacted value.** -/
theorem Hideable.not_infix_redactValue {token : String} (h : Hideable token) (j : Json) :
    ∀ s, (redactValue (some token) j).Holds (.str s) → ¬ token.toList <:+: s.toList := by
  induction j using Json.fromParts with
  | step j below =>
    intro s hs
    generalize hj : redactValue (some token) j = r at hs
    cases hs with
    | self =>
      cases j <;> cases hj
      exact h.not_infix_redactString _
    | part hk hs =>
      obtain ⟨l, hl, rfl | rfl⟩ := mem_parts_redactValue (hj ▸ hk)
      · exact below l hl s hs
      · obtain ⟨s', hs', hnot⟩ := h.exists_redactSensitive l
        rw [hs'] at hs
        cases hs with
        | self => exact hnot
        | part hk _ => exact absurd hk List.not_mem_nil

/-- **The token is scrubbed from every value.**  A token that is not empty, has no angle bracket and
is no part of the word in a mask is in no string that stands, at any depth, as a value in a redacted
object. -/
theorem token_in_no_value (payload : Fields) {token : String} (hne : token ≠ "")
    (hopening : '<' ∉ token.toList) (hclosing : '>' ∉ token.toList)
    (hword : ¬ token.toList <:+: "redacted".toList) :
    ∀ s, (Json.obj (redactFields (some token) payload)).Holds (.str s) →
      ¬ token.toList <:+: s.toList := by
  have h : Hideable token := ⟨mt String.toList_eq_nil_iff.mp hne, hopening, hclosing, hword⟩
  exact h.not_infix_redactValue (.obj payload)

/-- A token whose occurrences overlap, under a sensitive name, in a list and below it. -/
theorem token_in_no_nested_value :
    let token := "abab"
    let payload : Fields := [("Authorization", .str "Bearer abab"),
      ("items", .arr [.str "xababab", .obj [("note", .str "Bearer abab ab")]])]
    (token ≠ "" ∧ '<' ∉ token.toList ∧ '>' ∉ token.toList ∧
        ¬ token.toList <:+: "redacted".toList) ∧
      ∀ s, (Json.obj (redactFields (some token) payload)).Holds (.str s) →
        ¬ token.toList <:+: s.toList := by
  intro token payload
  have h : token ≠ "" ∧ '<' ∉ token.toList ∧ '>' ∉ token.toList ∧
      ¬ token.toList <:+: "redacted".toList := by decide
  exact ⟨h, token_in_no_value payload h.1 h.2.1 h.2.2.1 h.2.2.2⟩

/-- The mask of a short token does not show it, and stands where a credential was. -/
example : redactFields (some "abab")
    [("a", .str "xababab"), ("token", .int 5), ("b", .arr [.str "Bearer abab ab"])] =
    [("a", .str "x<redacted>ab"), ("token", .str "<redacted>"),
      ("b", .arr [.str "Bearer <redacted> ab"])] := by
  decide +kernel

end PageSync.Redaction
