import Mathlib.Data.List.Forall2
import PageSync.Proofs.Redaction.Token

/-!
# Proofs/Redaction/Shape — what a redaction leaves as it is

A redaction replaces strings by strings, and sensitive values as a whole: `Corresponds` goes through
two values side by side and relates no more than these, so all else is the same in both.  What is
shown for a value corresponds to it under whatever holds of each single string and of each sensitive
value (`corresponds_redactFields`).  A string in which neither pattern nor the token occurs is kept
(`redactString_of_untouched`), so only what is to be hidden changes (`nothing_else_changes`).
-/

namespace PageSync.Redaction

/-! ## Two values side by side -/

mutual

/-- **What is shown corresponds to a value**: the same names in the same order, as many items, the
same numbers, booleans and nulls.  Strings that can be reached under no sensitive name are related
by `strings`, and values under sensitive names by `sensitive`. -/
inductive Corresponds (strings : String → String → Prop) (sensitive : Json → Json → Prop) :
    Json → Json → Prop
  | null : Corresponds strings sensitive .null .null
  | bool (b : Bool) : Corresponds strings sensitive (.bool b) (.bool b)
  | int (n : Int) : Corresponds strings sensitive (.int n) (.int n)
  | float (x : Binary64) : Corresponds strings sensitive (.float x) (.float x)
  | str {s shown : String} (h : strings s shown) :
    Corresponds strings sensitive (.str s) (.str shown)
  | arr {items shown : List Json} (h : List.Forall₂ (Corresponds strings sensitive) items shown) :
    Corresponds strings sensitive (.arr items) (.arr shown)
  | obj {fields shown : Fields}
    (h : List.Forall₂ (EntryCorresponds strings sensitive) fields shown) :
    Corresponds strings sensitive (.obj fields) (.obj shown)

/-- What is shown for an entry corresponds to it: the name is kept. -/
inductive EntryCorresponds (strings : String → String → Prop) (sensitive : Json → Json → Prop) :
    String × Json → String × Json → Prop
  | hidden {name : String} {j shown : Json} (hs : isSensitive name = true) (h : sensitive j shown) :
    EntryCorresponds strings sensitive (name, j) (name, shown)
  | plain {name : String} {j shown : Json} (hs : isSensitive name = false)
    (h : Corresponds strings sensitive j shown) :
    EntryCorresponds strings sensitive (name, j) (name, shown)

end

section

variable {strings : String → String → Prop} {sensitive : Json → Json → Prop}
  {token : Option String}

/-- **A redacted value corresponds to the value** in every way in which its strings and its
sensitive values do. -/
theorem corresponds_redactValue (hstrings : ∀ s, strings s (redactString token s))
    (hsensitive : ∀ j, sensitive j (redactSensitive token j)) (j : Json) :
    Corresponds strings sensitive j (redactValue token j) := by
  induction j using Json.fromParts with
  | step j below =>
    cases j with
    | null => exact .null
    | bool b => exact .bool b
    | int n => exact .int n
    | float x => exact .float x
    | str s => exact .str (hstrings s)
    | arr items =>
      rw [redactValue, redactItems_eq]
      exact .arr (List.forall₂_map_right_iff.mpr (List.forall₂_same.mpr below))
    | obj fields =>
      rw [redactValue, redactFields_eq]
      refine .obj (List.forall₂_map_right_iff.mpr (List.forall₂_same.mpr ?_))
      rintro ⟨name, j⟩ hentry
      cases hs : isSensitive name with
      | true => exact .hidden hs (hsensitive j)
      | false => exact .plain hs (below j (List.mem_map_of_mem hentry))

theorem corresponds_redactFields (hstrings : ∀ s, strings s (redactString token s))
    (hsensitive : ∀ j, sensitive j (redactSensitive token j)) (payload : Fields) :
    Corresponds strings sensitive (.obj payload) (.obj (redactFields token payload)) :=
  corresponds_redactValue hstrings hsensitive (.obj payload)

end

/-! ## Strings that are kept -/

/-- A known token stands in a text; the empty token is not known. -/
def TokenIn (token : Option String) (cs : List Char) : Prop :=
  knownToken token ≠ [] ∧ knownToken token <:+: cs

/-- **A string in which nothing is to be hidden**: no data address, not the token, and, where a
token is known, no bearer credential. -/
structure Untouched (token : Option String) (s : String) : Prop where
  no_dataUri : ∀ uri, IsDataUri uri → ¬ uri <:+: s.toList
  no_token : ¬ TokenIn token s.toList
  no_credential : knownToken token ≠ [] →
    ∀ credential, IsCredential credential → ¬ credential <:+: s.toList

/-- A text without data addresses is kept. -/
theorem maskDataUris_of_absent {cs : List Char} (h : ∀ uri, IsDataUri uri → ¬ uri <:+: cs) :
    maskDataUris cs = cs := by
  refine Text.replaceMatches_of_unfound fun s hs _ => ?_
  by_contra hfound
  obtain ⟨uri, huri, hstart⟩ := exists_dataUri_of_length hfound
  exact h uri huri (hstart.isInfix.trans hs.isInfix)

/-- A text without bearer credentials is kept. -/
theorem maskBearers_of_absent {cs : List Char}
    (h : ∀ credential, IsCredential credential → ¬ credential <:+: cs) : maskBearers cs = cs := by
  refine Text.replaceMatches_of_unfound fun s hs _ => ?_
  by_contra hfound
  obtain ⟨credential, hcredential, hstart⟩ := exists_credential_of_length hfound
  exact h credential hcredential (hstart.isInfix.trans hs.isInfix)

/-- A text without the token is kept. -/
theorem maskToken_of_absent {token : Option String} {cs : List Char} (h : ¬ TokenIn token cs) :
    maskToken (knownToken token) cs = cs := by
  rw [maskToken]
  split
  next => rfl
  next hknown => exact Text.replaceAll_of_absent fun hin => h ⟨mt List.isEmpty_iff.mpr hknown, hin⟩

/-- **A string in which nothing is to be hidden is kept.** -/
theorem redactString_of_untouched {token : Option String} {s : String} (h : Untouched token s) :
    redactString token s = s := by
  rw [redactString, maskDataUris_of_absent h.no_dataUri, String.ofList_toList]
  split
  next => rfl
  next hknown =>
    rw [redactCredential, maskToken_of_absent h.no_token,
      maskBearers_of_absent (h.no_credential (mt List.isEmpty_iff.mpr hknown)),
      String.ofList_toList]

/-! ## Values that are kept -/

/-- A value without sensitive names, in whose strings nothing is to be hidden, is kept. -/
theorem redactValue_of_untouched {token : Option String} (j : Json)
    (hnames : ∀ fields, j.Holds (.obj fields) → ∀ name ∈ Fields.names fields,
      isSensitive name = false)
    (hstrings : ∀ s, j.Holds (.str s) → Untouched token s) : redactValue token j = j := by
  induction j using Json.fromParts with
  | step j below =>
    have kept : ∀ k ∈ j.parts, redactValue token k = k := fun k hk =>
      below k hk (fun fields h => hnames fields (.part hk h)) fun s h => hstrings s (.part hk h)
    cases j with
    | str s => rw [redactValue, redactString_of_untouched (hstrings s (.self _))]
    | arr items =>
      rw [redactValue, redactItems_eq]
      exact congrArg Json.arr ((List.map_congr_left kept).trans (List.map_id' items))
    | obj fields =>
      rw [redactValue, redactFields_eq]
      refine congrArg Json.obj ((List.map_congr_left fun entry hmem => ?_).trans
        (List.map_id' fields))
      rw [hnames fields (.self _) entry.1 (List.mem_map_of_mem hmem)]
      exact congrArg (entry.1, ·) (kept entry.2 (List.mem_map_of_mem hmem))
    | null | bool _ | int _ | float _ => rfl

/-- **Only what is to be hidden changes.**  Names, orders and lengths stay, and so do all numbers,
booleans and nulls that stand under no sensitive name; what stands under one becomes a string; and a
string under none is kept when nothing is to be hidden in it.  So a payload without sensitive names,
in whose strings nothing is to be hidden, is shown as it is. -/
theorem nothing_else_changes (payload : Fields) (token : Option String) :
    Corresponds (fun s shown => Untouched token s → shown = s) (fun _ shown => ∃ s, shown = .str s)
      (.obj payload) (.obj (redactFields token payload)) ∧
    ((∀ fields, (Json.obj payload).Holds (.obj fields) → ∀ name ∈ Fields.names fields,
        isSensitive name = false) →
      (∀ s, (Json.obj payload).Holds (.str s) → Untouched token s) →
      redactFields token payload = payload) := by
  constructor
  · exact corresponds_redactFields (fun _ => redactString_of_untouched)
      (exists_str_redactSensitive token) payload
  · intro hnames hstrings
    have h := redactValue_of_untouched (.obj payload) hnames hstrings
    rw [redactValue] at h
    exact Json.obj.inj h

end PageSync.Redaction
