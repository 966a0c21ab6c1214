import PageSync.Proofs.Json.Quoting
import PageSync.Proofs.Json.RoundTrip

/-!
# Proofs/Json/Ascii — one line of printable ASCII

A style that escapes what is beyond ASCII and begins no line of its own writes printable ASCII only
(`isPrintable_of_mem_write`): a character is escaped by digits (`isPrintable_of_mem_escapeChar`),
and everything else in a text is a mark, a word or a number.  Such a text has no line break in it.
-/

namespace PageSync.Json

/-- Whether a character is one of printable ASCII, the blank included. -/
def isPrintable (c : Char) : Bool :=
  32 ≤ c.toNat && c.toNat < 127

/-- A style that keeps to one line of printable ASCII. -/
structure Style.OneLine (style : Style) : Prop where
  ascii : style.ascii = true
  colon : ∀ c ∈ style.colon.toList, isPrintable c = true
  comma : ∀ c ∈ style.comma.toList, isPrintable c = true
  indent : style.indent = none

/-! ## Characters -/

theorem isPrintable_hexDigit : ∀ n < 16, isPrintable (hexDigit n) = true := by
  decide

theorem isPrintable_of_isDigit {c : Char} (h : c.isDigit = true) : isPrintable c = true := by
  simp only [Char.isDigit, Bool.and_eq_true, decide_eq_true_eq, UInt32.le_iff_toNat_le] at h
  have hlow : 48 ≤ c.toNat := h.1
  have hhigh : c.toNat ≤ 57 := h.2
  simp [isPrintable]; omega

theorem isPrintable_of_mem_unitEscape (u : Nat) : ∀ c ∈ unitEscape u, isPrintable c = true := by
  have hdigit (n : Nat) : isPrintable (hexDigit (n % 16)) = true :=
    isPrintable_hexDigit _ (Nat.mod_lt _ (by decide))
  have hmark : isPrintable '\\' = true ∧ isPrintable 'u' = true := by decide
  simp [unitEscape, hdigit, hmark]

theorem isPrintable_of_simpleEscape? {e c : Char} (h : simpleEscape? e = some c) :
    isPrintable e = true := by
  unfold simpleEscape? at h
  split at h
  next he =>
    simp only [Bool.or_eq_true, decide_eq_true_eq] at he
    rcases he with (rfl | rfl) | rfl <;> rfl
  split at h
  next he => exact he ▸ rfl
  split at h
  next he => exact he ▸ rfl
  split at h
  next he => exact he ▸ rfl
  split at h
  next he => exact he ▸ rfl
  split at h
  next he => exact he ▸ rfl
  next => simp at h

/-- **A character is written in printable ASCII.** -/
theorem isPrintable_of_mem_escapeChar (c : Char) :
    ∀ d ∈ escapeChar true c, isPrintable d = true := by
  rcases escapeChar_cases true c with ⟨e, hw, he⟩ | hw | ⟨hw, -, -, hlow, hhigh⟩ <;> rw [hw]
  · simpa using ⟨rfl, isPrintable_of_simpleEscape? he⟩
  · rw [unicodeEscape]
    split
    · exact isPrintable_of_mem_unitEscape _
    · exact List.forall_mem_append.mpr
        ⟨isPrintable_of_mem_unitEscape _, isPrintable_of_mem_unitEscape _⟩
  · simpa [isPrintable] using ⟨hlow, hhigh rfl⟩

theorem isPrintable_of_mem_quote (s : String) : ∀ c ∈ quote true s, isPrintable c = true := by
  have hbody : ∀ c ∈ s.toList.flatMap (escapeChar true), isPrintable c = true := by
    intro c hc
    obtain ⟨d, -, hc⟩ := List.mem_flatMap.mp hc
    exact isPrintable_of_mem_escapeChar d c hc
  exact List.forall_mem_cons.mpr ⟨rfl, List.forall_mem_append.mpr ⟨hbody,
    List.forall_mem_singleton.mpr rfl⟩⟩

/-! ## Texts -/

theorem forall_mem_intercalate {α : Type} {P : α → Prop} {gap : List α} (hgap : ∀ a ∈ gap, P a) :
    ∀ {parts : List (List α)}, (∀ p ∈ parts, ∀ a ∈ p, P a) → ∀ a ∈ gap.intercalate parts, P a
  | [], _ => fun _ ha => absurd ha List.not_mem_nil
  | [p], h => by simpa using h
  | p :: q :: rest, h => by
      rw [List.intercalate_cons_cons, List.append_assoc]
      exact List.forall_mem_append.mpr ⟨h p (by simp), List.forall_mem_append.mpr ⟨hgap,
        forall_mem_intercalate hgap fun r hr => h r (List.mem_cons_of_mem p hr)⟩⟩

section

variable {style : Style} {level : Nat}

/-- Texts in brackets are printable when the texts are. -/
theorem isPrintable_of_mem_bracketed (hs : style.OneLine) {opening closing : Char}
    (hmarks : isPrintable opening = true ∧ isPrintable closing = true) {texts : List (List Char)}
    (h : ∀ text ∈ texts, ∀ c ∈ text, isPrintable c = true) :
    ∀ c ∈ bracketed style level opening closing texts, isPrintable c = true := by
  cases texts with
  | nil => simpa [bracketed] using hmarks
  | cons text texts =>
    have hinner := forall_mem_intercalate hs.comma h
    intro c hc
    simp only [bracketed, Style.lead, hs.indent, List.append_nil, List.mem_cons, List.mem_append,
      List.not_mem_nil, or_false] at hc
    rcases hc with (rfl | hc) | rfl
    · exact hmarks.1
    · exact hinner c hc
    · exact hmarks.2

/-- **The text of a plain value is printable ASCII.** -/
theorem isPrintable_of_mem_write (hs : style.OneLine) (j : Json) (h : j.isPlain = true) :
    ∀ level, ∀ c ∈ write style level j, isPrintable c = true := by
  induction j using fromParts with
  | step j below =>
    intro level
    cases j with
    | null => exact List.all_eq_true.mp rfl
    | bool b =>
      cases b
      · exact List.all_eq_true.mp rfl
      · exact List.all_eq_true.mp rfl
    | int n =>
      intro c hc
      rcases isDigit_or_minus_of_mem_intText hc with hd | rfl
      · exact isPrintable_of_isDigit hd
      · rfl
    | float x => simp [isPlain] at h
    | str s =>
      rw [write, hs.ascii]
      exact isPrintable_of_mem_quote s
    | arr items =>
      have hitems := arePlain_iff.mp h
      rw [write, writeItems_eq]
      refine isPrintable_of_mem_bracketed hs (by decide) ?_
      rw [List.forall_mem_map]
      exact fun k hk => below k hk (hitems k hk) (level + 1)
    | obj fields =>
      have hvalues := (isPlain_obj_iff.mp h).2
      rw [write, writeFields_eq]
      refine isPrintable_of_mem_bracketed hs (by decide) ?_
      rw [List.forall_mem_map]
      intro e he
      rw [entryText, hs.ascii]
      exact List.forall_mem_append.mpr ⟨List.forall_mem_append.mpr
        ⟨isPrintable_of_mem_quote e.1, hs.colon⟩,
        below e.2 (List.mem_map_of_mem he) (hvalues e he) (level + 1)⟩

end

end PageSync.Json
