import PageSync.Proofs.Url.Authority

/-!
# Proofs/Url/Reading — the two readings of an address

An address is judged by one reading of it and requested by another.  Both find the same scheme and
the same authority (`same_reading`), and both put the user before the last at sign.  Of what
follows, one takes the text between the first brackets wherever they stand, the other only what has
brackets around it.  The check of an authority lets no bracket stand elsewhere
(`opens_of_checkBrackets`), so a host that is judged to be this machine is requested as this machine
(`JudgedHome.form_eq`).
-/

namespace PageSync.Url

/-! ## One scheme and one authority -/

/-- The authority of an address as it is judged. -/
def judgedNetloc (address : String) : List Char :=
  netlocOf (splitScheme (significant address.toList)).2

/-- A scheme in front of a colon. -/
theorem schemeOf_cases (cs : List Char) : (schemeOf cs).1 = [] ∨
    ∃ c more rest, cs = c :: (more ++ ':' :: rest) ∧ c.isAlpha = true ∧
      (∀ d ∈ more, isSchemeChar d = true) ∧ schemeOf cs = (c :: more, rest) := by
  unfold schemeOf
  dsimp only
  split
  · exact .inl rfl
  · next c tail _ =>
    split
    · next more rest hspan =>
      split
      · next halpha =>
        rw [List.span_eq_takeWhile_dropWhile] at hspan
        obtain ⟨hmore, hrest⟩ := Prod.mk.inj hspan
        refine .inr ⟨c, more, rest, ?_, halpha, fun d hd => ?_, rfl⟩
        · rw [← hmore, ← hrest, List.takeWhile_append_dropWhile]
        · rw [← hmore] at hd
          have hd := List.mem_takeWhile_imp hd
          rw [isSchemeChar, Bool.or_right_comm]
          exact hd
      · exact .inl rfl
    · exact .inl rfl
  · exact .inl rfl

/-- The other reading finds this scheme, too. -/
theorem splitScheme_of_schemeOf {c : Char} {more rest : List Char} (hc : c.isAlpha = true)
    (hmore : ∀ d ∈ more, isSchemeChar d = true) : splitScheme (c :: (more ++ ':' :: rest))
      = (String.ofList ((c :: more).map Char.toLower), rest) := by
  have hcolon : ∀ d ∈ c :: more, (d != ':') = true := by
    intro d hd
    rw [bne_iff_ne]
    rintro rfl
    rcases List.mem_cons.mp hd with rfl | hd
    · exact absurd hc (by decide)
    · exact absurd (hmore _ hd) (by decide)
  rw [← List.cons_append]
  unfold splitScheme
  rw [List.span_eq_takeWhile_dropWhile, List.takeWhile_append_of_pos hcolon,
    List.dropWhile_append_of_pos hcolon]
  simp [hc, List.all_eq_true.mpr hmore]

/-- An address that begins with a letter and can be requested has nothing that does not count. -/
theorem significant_of_isReadable {c : Char} {cs : List Char} (hc : c.isAlpha = true)
    (h : isReadable (c :: cs) = true) : significant (c :: cs) = c :: cs := by
  rw [isReadable, Bool.and_eq_true, List.all_eq_true] at h
  have hletter : ¬ c.toNat ≤ 0x20 := by
    intro hle
    have hnone : ∀ c : Char, c.toNat < 0x21 → c.isAlpha = false := char_of_lt (by decide)
    rw [hnone c (by omega)] at hc
    contradiction
  have hkept : ∀ d ∈ c :: cs, (d != '\t' && d != '\r' && d != '\n') = true := by
    intro d hd
    have hnot : ∀ blank : Char,
        (decide (0x20 ≤ blank.toNat) && decide (blank.toNat ≠ 0x7F)) = false → d ≠ blank := by
      rintro blank hcontrol rfl
      rw [h.2 d hd] at hcontrol
      exact nomatch hcontrol
    simp only [Bool.and_eq_true, bne_iff_ne]
    exact ⟨⟨hnot '\t' (by decide), hnot '\r' (by decide)⟩, hnot '\n' (by decide)⟩
  rw [significant, List.dropWhile_cons_of_neg (by simpa using hletter)]
  exact List.filter_eq_self.mpr hkept

/-- The authority of a request stands where the other reading looks for a host. -/
theorem authority_of (cs : List Char) : (Parts.of cs).authority = netlocOf (schemeOf cs).2 := by
  dsimp only [Parts.of]
  generalize (schemeOf cs).2 = rest
  split
  · rw [List.span_eq_takeWhile_dropWhile]
    rfl
  · next hnone =>
    unfold netlocOf
    split
    · exact (hnone _ rfl).elim
    · rfl

/-- **Both readings find the same scheme and the same authority**, where a scheme is requested. -/
theorem same_reading {address : String} {r : Reference}
    (h : Reference.read? address = some r) (hscheme : r.scheme ≠ "") :
    (splitScheme (significant address.toList)).1 = r.scheme ∧
      judgedNetloc address = (Parts.of address.toList).authority := by
  unfold judgedNetloc
  obtain ⟨hreadable, hparts⟩ := Reference.ofParts?_of_read? h
  have hr : r.scheme = String.ofList ((schemeOf address.toList).1.map Char.toLower) :=
    (Reference.server_of_ofParts? hparts).2.2
  rcases schemeOf_cases address.toList with hnone | ⟨c, more, rest, hcs, hc, hmore, hsome⟩
  · rw [hnone] at hr
    exact absurd hr hscheme
  · rw [authority_of, hsome]
    rw [hsome] at hr
    rw [hcs] at hreadable ⊢
    rw [significant_of_isReadable hc hreadable, splitScheme_of_schemeOf hc hmore]
    exact ⟨hr.symm, rfl⟩

/-! ## One host -/

/-- What is left from a mark on begins with the mark. -/
theorem dropWhile_cases (mark : Char) (cs : List Char) :
    cs.dropWhile (· != mark) = [] ∨ ∃ rest, cs.dropWhile (· != mark) = mark :: rest := by
  rcases hdrop : cs.dropWhile (· != mark) with - | ⟨c, rest⟩
  · exact .inl rfl
  · have hne : cs.dropWhile (· != mark) ≠ [] := by rw [hdrop]; exact List.cons_ne_nil _ _
    have hnot := List.head_dropWhile_not (· != mark) hne
    have hc : c = mark := by simpa [hdrop] using hnot
    exact .inr ⟨rest, by rw [hc]⟩

/-- A name of this machine has no zone, and it is the lower case of what was written. -/
theorem lower_of_lowerHost {cs : List Char} {name : String} (hname : name ∈ Settings.localHosts)
    (h : lowerHost cs = name) : cs.flatMap Text.lowerChar = name.toList ∧ '%' ∉ cs := by
  have hpercent : '%' ∉ name.toList :=
    (by decide : ∀ name ∈ Settings.localHosts, '%' ∉ name.toList) name hname
  have hlower : name.toList = (cs.takeWhile (· != '%')).flatMap Text.lowerChar
      ++ cs.dropWhile (· != '%') := by
    rw [← h, lowerHost, List.span_eq_takeWhile_dropWhile]
    simp [Text.lower]
  have hzone : cs.dropWhile (· != '%') = [] := by
    rcases dropWhile_cases '%' cs with hnone | ⟨rest, hsome⟩
    · exact hnone
    · rw [hlower, hsome] at hpercent
      exact absurd (List.mem_append_right _ List.mem_cons_self) hpercent
  have hwhole : cs.takeWhile (· != '%') = cs := by
    have hsplit := List.takeWhile_append_dropWhile (p := (· != '%')) (l := cs)
    rwa [hzone, List.append_nil] at hsplit
  refine ⟨?_, fun hc => ?_⟩
  · rw [hlower, hzone, hwhole, List.append_nil]
  · rw [← hwhole] at hc
    exact absurd (List.mem_takeWhile_imp hc) (by decide)

/-- The characters in front of a zone are in ASCII. -/
theorem toNat_lt_of_isAddressChar {c : Char} (h : isAddressChar c = true) : c.toNat < 128 := by
  simp only [isAddressChar, isHexDigit, Char.isDigit, Bool.or_eq_true, Bool.and_eq_true,
    decide_eq_true_eq, beq_iff_eq] at h
  rcases h with (((h | h) | h) | rfl) | rfl
  · exact Nat.lt_of_le_of_lt (show c.toNat ≤ '9'.toNat from h.2) (by decide)
  · exact Nat.lt_of_le_of_lt (show c.toNat ≤ 'f'.toNat from h.2) (by decide)
  · exact Nat.lt_of_le_of_lt (show c.toNat ≤ 'F'.toNat from h.2) (by decide)
  · decide
  · decide

/-- **Among the names of this machine, only `::1` is an address of version 6.** -/
theorem eq_of_isIpv6 {inner : List Char} {name : String} (hname : name ∈ Settings.localHosts)
    (hlower : inner.flatMap Text.lowerChar = name.toList) (h : isIpv6 inner = true)
    (hchars : ∀ c ∈ inner, isAddressChar c = true) : name = "::1" ∧ inner = "::1".toList := by
  have hascii : ∀ c : Char, c.toNat < 128 → isAddressChar c = true →
      Text.lowerChar c = [c.toLower] ∧ isAddressChar c.toLower = true ∧
        c.toLower.isAlpha = c.isAlpha := char_of_lt (by decide)
  have hlowered : ∀ c ∈ inner, Text.lowerChar c = [c.toLower] ∧ isAddressChar c.toLower = true ∧
      c.toLower.isAlpha = c.isAlpha := fun c hc =>
    hascii c (toNat_lt_of_isAddressChar (hchars c hc)) (hchars c hc)
  have hmem : ∀ c ∈ inner, c.toLower ∈ name.toList := fun c hc => by
    rw [← hlower]
    exact List.mem_flatMap.mpr ⟨c, hc, by rw [(hlowered c hc).1]; exact List.mem_singleton_self _⟩
  have hsame : name.toList.any Char.isAlpha = false → inner = name.toList := by
    intro hcase
    rw [← hlower]
    refine (lower_of_caseless fun c hc => ⟨toNat_lt_of_isAddressChar (hchars c hc), ?_⟩).symm
    rw [← (hlowered c hc).2.2]
    exact Bool.eq_false_iff.mpr (List.any_eq_false.mp hcase _ (hmem c hc))
  simp only [Settings.localHosts, List.mem_cons, List.not_mem_nil, or_false] at hname
  rcases hname with rfl | rfl | rfl
  -- `localhost` has a letter that no address is written with, `127.0.0.1` has too few groups
  · have hletter : 'l' ∈ inner.flatMap Text.lowerChar := by rw [hlower]; decide
    obtain ⟨c, hc, hl⟩ := List.mem_flatMap.mp hletter
    rw [(hlowered c hc).1, List.mem_singleton] at hl
    have hno := (hlowered c hc).2.1
    rw [← hl] at hno
    exact absurd hno (by decide)
  · rw [hsame (by decide)] at h
    exact absurd h (by decide)
  · exact ⟨rfl, hsame (by decide)⟩

/-- Without brackets around it, a host ends at the first colon. -/
theorem splitPort_of_not {cs : List Char} (h : ¬ (cs.head? = some '[' ∧ ']' ∈ cs)) :
    splitPort cs = (cs.takeWhile (· != ':'),
      (afterMark ':' (cs.dropWhile (· != ':'))).getD (cs.dropWhile (· != ':'))) := by
  have hcond : (decide (cs.head? = some '[') &&
      !((cs.reverse.dropWhile (· != ']')).reverse).isEmpty) = false := by
    by_cases hhead : cs.head? = some '['
    · have hclose : ']' ∉ cs := fun hc => h ⟨hhead, hc⟩
      have hempty : cs.reverse.dropWhile (· != ']') = [] := by
        rw [List.dropWhile_eq_nil_iff]
        exact all_ne fun hc => hclose (List.mem_reverse.mp hc)
      rw [hempty]
      simp
    · simp [hhead]
  unfold splitPort
  simp only [hcond, Bool.false_eq_true, if_false, List.span_eq_takeWhile_dropWhile]

/-- **Up to the first closing bracket**, an address of version 6 is read whole, or it has a zone. -/
theorem eq_of_isIpv6_of_takeWhile {inner rest front : List Char} (h : isIpv6 inner = true)
    (hfront : (inner ++ ']' :: rest).takeWhile (· != ']') = front) (hzone : '%' ∉ front) :
    inner = front := by
  by_cases hclose : ']' ∈ inner
  · obtain ⟨before, after, rfl, hbefore⟩ := List.eq_append_cons_of_mem hclose
    rw [List.append_assoc, List.takeWhile_append_of_pos (all_ne hbefore)] at hfront
    have hbracket : ']' ∈ (before ++ ']' :: after).takeWhile (· != '%') := by
      have hbefore : '%' ∉ before := fun hc => hzone (hfront ▸ List.mem_append_left _ hc)
      rw [List.takeWhile_append_of_pos (all_ne hbefore)]
      exact List.mem_append_right _ List.mem_cons_self
    exact absurd (isAddressChar_of_isIpv6 h hbracket) (by decide)
  · rw [← hfront, List.takeWhile_append_of_pos (all_ne hclose)]
    exact (List.append_nil inner).symm

/-- What is left of an address behind its first colons is no port. -/
theorem portForm?_unclosed (scheme : List Char) :
    portForm? scheme (splitPort "[::1".toList).2 = none := by
  have hport : (splitPort "[::1".toList).2 = ":1".toList := by decide
  have hread : Text.readInt? ":1" = none := by decide
  rw [hport, portForm?, if_neg (by decide), String.ofList_toList, hread]
  rfl

/-- **A host in brackets that is judged to be `::1`** is requested as `::1`.  What is judged ends at
the first closing bracket, what is requested at the last. -/
theorem form_of_brackets {tail form scheme : List Char} {n : Option Int}
    (hfront : tail.takeWhile (· != ']') = "::1".toList)
    (hform : hostForm? (splitPort ('[' :: tail)).1 = some form)
    (hport : portForm? scheme (splitPort ('[' :: tail)).2 = some n) : form = "::1".toList := by
  by_cases hclose : ']' ∈ tail
  · obtain ⟨after, before, hsplit, hafter⟩ :=
      List.eq_append_cons_of_mem (List.mem_reverse.mpr hclose)
    obtain rfl : tail = before.reverse ++ ']' :: after.reverse := by
      rw [← List.reverse_reverse tail, hsplit]
      simp
    have hlast : ']' ∉ after.reverse := fun hc => hafter (List.mem_reverse.mp hc)
    rw [← List.cons_append, splitPort_bracketed _ hlast] at hform
    obtain ⟨rfl, hipv6⟩ := hostForm?_bracketed hform
    exact eq_of_isIpv6_of_takeWhile hipv6 hfront (by decide)
  -- without a closing bracket, the port would begin with a colon
  · rw [List.takeWhile_eq_self_iff.mpr (all_ne hclose)] at hfront
    rw [hfront] at hport
    exact absurd (hport.symm.trans (portForm?_unclosed scheme)) (Option.some_ne_none n)

/-! ## What was checked -/

/-- A host in brackets that passed its check is an address of version 6, or of one to come. -/
theorem isIpv6_of_checkBracketedHost {host : List Char} (h : checkBracketedHost host = .ok ()) :
    host.head? = some 'v' ∨ isIpv6 host = true := by
  unfold checkBracketedHost at h
  dsimp only at h
  split at h
  · next hfuture => exact .inl hfuture
  · split at h
    · contradiction
    · split at h
      · next hipv6 => exact .inr hipv6
      · contradiction

/-- **A host with a bracket begins with it**, and what its brackets hold is checked. -/
theorem opens_of_checkBrackets {info : List Char} (h : checkBrackets info = .ok ())
    (hmem : '[' ∈ info) :
    info.head? = some '[' ∧ checkBracketedHost (bracketed info) = .ok () := by
  have hopened : info.contains '[' = true := List.contains_iff_mem.mpr hmem
  unfold checkBrackets at h
  dsimp only at h
  rw [hopened, hostPart, if_pos hopened] at h
  split at h
  · contradiction
  · next hplaced =>
    rw [Bool.true_and, Bool.not_eq_true, Bool.not_eq_false', Bool.and_eq_true] at hplaced
    exact ⟨of_decide_eq_true hplaced.1, h⟩

/-- In an authority with a bracket, what follows the user is checked. -/
theorem checkBrackets_of_checkNetloc {netloc : List Char} (h : checkNetloc netloc = .ok ())
    (hmem : '[' ∈ netloc) : checkBrackets (afterUser netloc) = .ok () := by
  unfold checkNetloc at h
  dsimp only at h
  rw [List.contains_iff_mem.mpr hmem] at h
  -- an opening bracket without a closing one is refused
  rcases hclosed : netloc.contains ']' with - | -
  · rw [hclosed] at h
    contradiction
  · rw [hclosed] at h
    rcases hcheck : checkBrackets (afterUser netloc) with fault | checked
    · rw [hcheck] at h
      contradiction
    · rfl

/-- Brackets in the middle of a host are refused, whatever they hold. -/
example : checkNetloc "[::1]@x[localhost].example.com".toList = .error .misplaced := by
  decide

/-- The scheme and the host that are judged, in an authority that was checked. -/
theorem eq_of_schemeAndHost {address scheme : String} {host : Option String}
    (h : schemeAndHost address = .ok (scheme, host)) :
    (splitScheme (significant address.toList)).1 = scheme ∧
      checkNetloc (judgedNetloc address) = .ok () ∧ hostOf (judgedNetloc address) = host := by
  unfold judgedNetloc
  unfold schemeAndHost at h
  dsimp only at h
  rcases hcheck : checkNetloc (netlocOf (splitScheme (significant address.toList)).2)
    with fault | checked
  · rw [hcheck] at h
    contradiction
  · rw [hcheck] at h
    obtain ⟨hscheme, hhost⟩ := Prod.mk.inj (Except.ok.inj h)
    exact ⟨hscheme, rfl, hhost⟩

/-- An authority that was checked, with a host that is judged to be this machine. -/
structure JudgedHome (netloc : List Char) (name : String) : Prop where
  checked : checkNetloc netloc = .ok ()
  host : hostOf netloc = some name
  isLocal : name ∈ Settings.localHosts

namespace JudgedHome

variable {netloc : List Char} {name : String} (h : JudgedHome netloc name)
include h

/-- The name is the lower case of what was written. -/
theorem lower :
    (hostPart (afterUser netloc)).flatMap Text.lowerChar = name.toList ∧
      '%' ∉ hostPart (afterUser netloc) := by
  refine lower_of_lowerHost h.isLocal ?_
  have hhost := h.host
  unfold hostOf at hhost
  dsimp only at hhost
  split at hhost
  · contradiction
  · exact Option.some.inj hhost

/-- **A bracket behind the user** stands in front, and its text has been checked. -/
theorem opens (hmem : '[' ∈ afterUser netloc) :
    (afterUser netloc).head? = some '[' ∧
      checkBracketedHost (bracketed (afterUser netloc)) = .ok () := by
  refine opens_of_checkBrackets (checkBrackets_of_checkNetloc h.checked ?_) hmem
  exact List.mem_reverse.mp (List.takeWhile_subset _ (List.mem_reverse.mp hmem))

/-- **In brackets**, only `::1` is judged to be this machine. -/
theorem bracketed_eq (hmem : '[' ∈ afterUser netloc) :
    name = "::1" ∧ bracketed (afterUser netloc) = "::1".toList := by
  obtain ⟨hlower, hzone⟩ := h.lower
  obtain ⟨-, hcheck⟩ := h.opens hmem
  rw [hostPart, if_pos (List.contains_iff_mem.mpr hmem)] at hlower hzone
  generalize bracketed (afterUser netloc) = inner at hlower hzone hcheck ⊢
  rcases isIpv6_of_checkBracketedHost hcheck with hfuture | hipv6
  -- no name of this machine has the letter of an address to come
  · have hv : 'v' ∈ name.toList := by
      rw [← hlower]
      exact List.mem_flatMap.mpr ⟨'v', List.mem_of_head? hfuture, by decide⟩
    exact absurd hv ((by decide : ∀ name ∈ Settings.localHosts, 'v' ∉ name.toList) name h.isLocal)
  · refine eq_of_isIpv6 h.isLocal hlower hipv6 fun c hc => isAddressChar_of_isIpv6 hipv6 ?_
    rwa [List.takeWhile_eq_self_iff.mpr (all_ne hzone)]

/-- **A host that is judged to be this machine** is requested as this machine. -/
theorem form_eq {form scheme : List Char} {n : Option Int}
    (hform : hostForm? (splitPort (afterUser netloc)).1 = some form)
    (hport : portForm? scheme (splitPort (afterUser netloc)).2 = some n) : form = name.toList := by
  by_cases hmem : '[' ∈ afterUser netloc
  · obtain ⟨rfl, hinner⟩ := h.bracketed_eq hmem
    obtain ⟨tail, htail⟩ := List.head?_eq_some_iff.mp (h.opens hmem).1
    have hfront : tail.takeWhile (· != ']') = "::1".toList := by
      rw [← hinner, htail]
      rfl
    rw [htail] at hform hport
    exact form_of_brackets hfront hform hport
  -- without brackets, both end the host at the first colon
  · have hlower := h.lower.1
    rw [hostPart, if_neg (fun h => hmem (List.contains_iff_mem.mp h))] at hlower
    have hnot : ¬ ((afterUser netloc).head? = some '[' ∧ ']' ∈ afterUser netloc) :=
      fun h => hmem (List.mem_of_head? h.1)
    rw [splitPort_of_not hnot] at hform
    refine hostForm?_of_lower h.isLocal hlower (fun hc => ?_)
      (fun hc => hmem (List.takeWhile_subset _ hc)) hform
    exact absurd (List.mem_takeWhile_imp hc) (by decide)

end JudgedHome

end PageSync.Url
