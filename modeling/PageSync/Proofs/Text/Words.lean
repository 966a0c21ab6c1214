import Mathlib.Data.List.SplitBy
import Mathlib.Data.List.TakeWhile
import PageSync.Text.Blank

/-!
# Proofs/Text/Words — the words of a text, one after the other

`words` cuts a text wherever blanks begin or end and keeps the pieces without blanks.  Read from the
left: blanks before a word are passed over (`words_blanks_append`), and a word that ends at a blank
or with the text comes first (`words_append`).  So the first word is what stands between the blanks
at the start and the next blank (`words_eq_cons`), and a text without words is blank.
-/

namespace PageSync.Text

/-- `w` is the first word of a text: blanks may stand before it, it has no blank itself, and the
text ends after it or goes on with a blank. -/
def IsFirstWord (w cs : List Char) : Prop :=
  ∃ blanks rest, cs = blanks ++ w ++ rest ∧ (∀ c ∈ blanks, isBlank c = true) ∧
    w ≠ [] ∧ (∀ c ∈ w, isBlank c = false) ∧ ∀ c ∈ rest.head?, isBlank c = true

section

variable {blanks w cs rest : List Char}

/-- Characters that are all blank, or all no blanks, are not cut. -/
theorem splitBy_of_uniform {b : Bool} (hne : cs ≠ []) (h : ∀ c ∈ cs, isBlank c = b) :
    (cs.splitBy fun a b => isBlank a == isBlank b) = [cs] := by
  refine List.splitBy_of_isChain hne (List.Pairwise.isChain ?_)
  refine List.pairwise_iff_forall_sublist.mpr ?_
  intro x y hxy
  rw [beq_iff_eq, h x (hxy.subset (by simp)), h y (hxy.subset (by simp))]

/-- A text is cut between characters of which only one is blank. -/
theorem splitBy_append {b : Bool} (hl : ∀ c ∈ cs, isBlank c = b)
    (hr : ∀ c ∈ rest.head?, isBlank c = !b) :
    ((cs ++ rest).splitBy fun a b => isBlank a == isBlank b) =
      (cs.splitBy fun a b => isBlank a == isBlank b) ++
        rest.splitBy fun a b => isBlank a == isBlank b := by
  refine List.splitBy_append ?_
  intro x hx y hy
  rw [hl x (List.mem_of_mem_getLast? hx), hr y hy]
  cases b <;> rfl

/-- A blank text has no words. -/
theorem words_of_blank (h : ∀ c ∈ cs, isBlank c = true) : words cs = [] := by
  cases cs with
  | nil => rfl
  | cons c cs =>
    rw [words, splitWhere, splitBy_of_uniform (List.cons_ne_nil c cs) h]
    simp [h c List.mem_cons_self]

/-- Blanks before a word are passed over. -/
theorem words_blanks_append (hb : ∀ c ∈ blanks, isBlank c = true)
    (hc : ∀ c ∈ cs.head?, isBlank c = false) : words (blanks ++ cs) = words cs := by
  have none : words blanks = [] := words_of_blank hb
  rw [words, splitWhere] at none ⊢
  rw [splitBy_append hb hc, List.filter_append, none, List.nil_append]
  rfl

/-- A word that ends with the text or at a blank comes first. -/
theorem words_append (hne : w ≠ []) (hw : ∀ c ∈ w, isBlank c = false)
    (hr : ∀ c ∈ rest.head?, isBlank c = true) : words (w ++ rest) = w :: words rest := by
  have kept : w.all (fun c => !isBlank c) = true := by
    rw [List.all_eq_true]
    intro c hc
    rw [hw c hc]; rfl
  rw [words, splitWhere, splitBy_append hw hr, splitBy_of_uniform hne hw, List.singleton_append,
    List.filter_cons, if_pos kept]
  rfl

/-- **The words of a text** with its first word taken off. -/
theorem words_eq_cons (h : IsFirstWord w cs) : ∃ rest, words cs = w :: words rest := by
  obtain ⟨blanks, rest, rfl, hb, hne, hw, hr⟩ := h
  refine ⟨rest, ?_⟩
  rw [List.append_assoc, words_blanks_append hb, words_append hne hw hr]
  intro c hc
  cases w with
  | nil => exact absurd rfl hne
  | cons d w =>
    obtain rfl : d = c := Option.some.inj hc
    exact hw d List.mem_cons_self

end

/-- A text is blank, or it has a first word. -/
theorem blank_or_firstWord (cs : List Char) :
    (∀ c ∈ cs, isBlank c = true) ∨ ∃ w, IsFirstWord w cs := by
  have start : ∀ c ∈ (cs.dropWhile isBlank).head?, isBlank c = false := by
    intro c hc
    have := List.head?_dropWhile_not isBlank cs
    rw [Option.mem_def.mp hc] at this
    simpa using this
  have blanks : ∀ c ∈ cs.takeWhile isBlank, isBlank c = true :=
    fun c hc => List.mem_takeWhile_imp hc
  cases hd : cs.dropWhile isBlank with
  | nil =>
    refine .inl fun c hc => blanks c ?_
    rw [← List.takeWhile_append_dropWhile (p := isBlank) (l := cs), hd, List.append_nil] at hc
    exact hc
  | cons d ds =>
    rw [hd] at start
    have hblank : isBlank d = false := start d rfl
    refine .inr ⟨(d :: ds).takeWhile fun c => !isBlank c, cs.takeWhile isBlank,
      (d :: ds).dropWhile fun c => !isBlank c, ?_, blanks, ?_, ?_, ?_⟩
    · rw [List.append_assoc, List.takeWhile_append_dropWhile, ← hd,
        List.takeWhile_append_dropWhile]
    · simp [hblank]
    · intro c hc
      simpa using List.mem_takeWhile_imp hc
    · intro c hc
      have := List.head?_dropWhile_not (fun c => !isBlank c) (d :: ds)
      rw [Option.mem_def.mp hc] at this
      simpa using this

end PageSync.Text
