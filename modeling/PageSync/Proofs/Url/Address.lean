import PageSync.Url.Ip

/-!
# Proofs/Url/Address — what internet addresses are written with

An address of version 4 holds digits and dots only, and one of version 6 hexadecimal digits, colons
and dots in front of its zone.  Both are put together from parts between separators, so a character
of the whole is a separator or stands in a part (`separator_or_mem_part`).
-/

namespace PageSync.Url

/-- A character between separators is a separator or stands in one of the parts. -/
theorem separator_or_mem_part (separator : Char) : ∀ (cs : List Char), ∀ c ∈ cs,
    c = separator ∨ ∃ part ∈ cs.splitOn separator, c ∈ part
  | [], _, hc => by cases hc
  | d :: ds, c, hc => by
    rw [List.splitOn_cons_eq_if_modifyHead]
    obtain ⟨first, rest, hsplit⟩ := List.exists_cons_of_ne_nil (List.splitOn_ne_nil separator ds)
    by_cases hd : d = separator
    · rw [if_pos (beq_iff_eq.mpr hd)]
      rcases List.mem_cons.mp hc with rfl | hc
      · exact .inl hd
      · obtain h | ⟨part, hpart, h⟩ := separator_or_mem_part separator ds c hc
        · exact .inl h
        · exact .inr ⟨part, List.mem_cons_of_mem _ hpart, h⟩
    · rw [if_neg (fun h => hd (beq_iff_eq.mp h)), hsplit, List.modifyHead_cons]
      rcases List.mem_cons.mp hc with rfl | hc
      · exact .inr ⟨_, List.mem_cons_self, List.mem_cons_self⟩
      · obtain h | ⟨part, hpart, h⟩ := separator_or_mem_part separator ds c hc
        · exact .inl h
        · rw [hsplit] at hpart
          rcases List.mem_cons.mp hpart with rfl | hpart
          · exact .inr ⟨_, List.mem_cons_self, List.mem_cons_of_mem _ h⟩
          · exact .inr ⟨part, List.mem_cons_of_mem _ hpart, h⟩

/-- **An address of version 4** is written with digits and dots. -/
theorem isDigit_or_dot_of_isIpv4 {cs : List Char} (h : isIpv4 cs = true) {c : Char} (hc : c ∈ cs) :
    c.isDigit = true ∨ c = '.' := by
  simp only [isIpv4, Bool.and_eq_true, List.all_eq_true] at h
  obtain hdot | ⟨octet, hoctet, hc⟩ := separator_or_mem_part '.' cs c hc
  · exact .inr hdot
  · have hoctet := h.2 octet hoctet
    simp only [isOctet, Bool.and_eq_true, List.all_eq_true] at hoctet
    exact .inl (hoctet.1.1.1.2 c hc)

/-- Whether a character may stand in front of the zone of an address of version 6. -/
def isAddressChar (c : Char) : Bool :=
  isHexDigit c || c == ':' || c == '.'

theorem isHexDigit_of_isSide {groups : List (List Char)} (h : isSide groups = true) {g : List Char}
    (hg : g ∈ groups) {c : Char} (hc : c ∈ g) : isHexDigit c = true := by
  simp only [isSide, Bool.or_eq_true, List.all_eq_true, beq_iff_eq] at h
  rcases h with rfl | h
  · rw [List.mem_singleton] at hg
    rw [hg] at hc
    exact absurd hc List.not_mem_nil
  · have hg := h g hg
    simp only [isGroup, Bool.and_eq_true, List.all_eq_true] at hg
    exact hg.2 c hc

/-- Groups hold hexadecimal digits only. -/
theorem isHexDigit_of_areGroups {groups : List (List Char)} (h : areGroups groups = true)
    {g : List Char} (hg : g ∈ groups) {c : Char} (hc : c ∈ g) : isHexDigit c = true := by
  unfold areGroups at h
  split at h
  · simp only [Bool.and_eq_true] at h
    have hside : isSide groups = true := by rw [isSide, h.2, Bool.or_true]
    exact isHexDigit_of_isSide hside hg hc
  · next gap hgaps =>
    simp only [Bool.and_eq_true] at h
    obtain ⟨⟨hbefore, hafter⟩, -⟩ := h
    obtain ⟨i, hi, rfl⟩ := List.mem_iff_getElem.mp hg
    rcases Nat.lt_trichotomy i gap with hlt | rfl | hgt
    · exact isHexDigit_of_isSide hbefore (List.mem_take_iff_getElem.mpr ⟨i, by omega, rfl⟩) hc
    · have hmem : i ∈ gapsOf groups := hgaps ▸ List.mem_singleton_self i
      simp only [gapsOf, List.mem_filter, Bool.and_eq_true] at hmem
      have hempty := hmem.2.2
      rw [List.getElem?_eq_getElem hi, Option.getD_some, List.isEmpty_iff] at hempty
      rw [hempty] at hc
      exact absurd hc List.not_mem_nil
    · refine isHexDigit_of_isSide hafter ?_ hc
      exact List.mem_drop_iff_getElem.mpr ⟨i - (gap + 1), by omega, by congr 1; omega⟩
  · contradiction

/-- What stands in front of the zone is put together from groups. -/
theorem isAddressChar_of_groupsOf? {address : List Char} {groups : List (List Char)}
    (h : groupsOf? address = some groups) (hgroups : areGroups groups = true) {c : Char}
    (hc : c ∈ address) : isAddressChar c = true := by
  have hhex : ∀ {c}, isHexDigit c = true → isAddressChar c = true := fun h => by
    rw [isAddressChar, h, Bool.true_or, Bool.true_or]
  obtain rfl | ⟨part, hpart, hc⟩ := separator_or_mem_part ':' address c hc
  · rfl
  · unfold groupsOf? at h
    dsimp only at h
    split at h
    · exact nomatch h
    · split at h
      · split at h
        · next hlast =>
          obtain rfl := Option.some.inj h
          have hne : address.splitOn ':' ≠ [] := List.splitOn_ne_nil ':' address
          have hparts := List.dropLast_concat_getLast hne
          rcases List.mem_append.mp (hparts.symm ▸ hpart) with hpart | hpart
          · exact hhex (isHexDigit_of_areGroups hgroups (List.mem_append_left _ hpart) hc)
          · rw [List.mem_singleton] at hpart
            rw [List.getLast?_eq_some_getLast hne, Option.getD_some, ← hpart] at hlast
            rcases isDigit_or_dot_of_isIpv4 hlast hc with hdigit | rfl
            · exact hhex (by rw [isHexDigit, hdigit, Bool.true_or, Bool.true_or])
            · rfl
        · exact nomatch h
      · obtain rfl := Option.some.inj h
        exact hhex (isHexDigit_of_areGroups hgroups hpart hc)

/-- The zone begins at a percent sign. -/
theorem mem_of_withoutZone? {cs address : List Char} (h : withoutZone? cs = some address) {c : Char}
    (hc : c ∈ cs.takeWhile (· != '%')) : c ∈ address := by
  have hcs : ['%'].intercalate (cs.splitOn '%') = cs := List.intercalate_splitOn '%'
  unfold withoutZone? at h
  split at h
  · next whole hsplit =>
    obtain rfl := Option.some.inj h
    rw [hsplit, List.intercalate_singleton] at hcs
    rw [hcs]
    exact List.takeWhile_subset _ hc
  · contradiction
  · next front zone hsplit =>
    obtain rfl := Option.some.inj h
    rw [hsplit, List.intercalate_cons_cons, List.intercalate_singleton] at hcs
    rw [← hcs, List.append_assoc, List.takeWhile_append] at hc
    split at hc
    · exact (List.mem_append.mp hc).resolve_right List.not_mem_nil
    · exact List.takeWhile_subset _ hc
  · contradiction

/-- **An address of version 6** is written with hexadecimal digits, colons and dots, up to a percent
sign. -/
theorem isAddressChar_of_isIpv6 {cs : List Char} (h : isIpv6 cs = true) {c : Char}
    (hc : c ∈ cs.takeWhile (· != '%')) : isAddressChar c = true := by
  unfold isIpv6 at h
  split at h
  · contradiction
  · split at h
    · next groups hgroups =>
      obtain ⟨address, haddress, hgroups⟩ := Option.bind_eq_some_iff.mp hgroups
      rw [Bool.and_eq_true] at h
      exact isAddressChar_of_groupsOf? hgroups h.2 (mem_of_withoutZone? haddress hc)
    · contradiction

end PageSync.Url
