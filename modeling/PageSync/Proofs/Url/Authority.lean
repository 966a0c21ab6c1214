import Mathlib.Data.List.TakeDrop
import Mathlib.Data.List.TakeWhile
import Mathlib.Logic.Relation
import PageSync.Proofs.Url.HostForm
import PageSync.Url.Join

/-!
# Proofs/Url/Authority — the server of a reference, from one form to the next

Whatever path and query a reference is given, its server is read again from what it was written as.
The user ends at the last at sign, the host at the colon of the port; so a host that has neither,
and one in brackets, comes out as it went in (`splitPort_plain`, `splitPort_bracketed`).  Hence a
name of this machine stays one through every step towards a request (`Retargets.atHome`).
-/

namespace PageSync.Url

/-! ## Hosts and ports in an authority -/

/-- The text of a port, with its colon. -/
def portText (port : Option Int) : List Char :=
  match port with
  | some n => ':' :: Json.intText n
  | none => []

theorem portText_ne {port : Option Int} {mark : Char} (hmark : mark ∈ ['@', '[', ']']) :
    mark ∉ portText port := by
  rcases port with - | n
  · exact List.not_mem_nil
  · obtain ⟨hcolon, hdigit⟩ : mark ≠ ':' ∧ ¬ (mark.isDigit = true ∨ mark = '-') := by
      simp only [List.mem_cons, List.not_mem_nil, or_false] at hmark
      rcases hmark with rfl | rfl | rfl
      all_goals decide
    intro hmem
    rcases List.mem_cons.mp hmem with heq | hmem
    · exact hcolon heq
    · exact hdigit (Json.isDigit_or_minus_of_mem_intText hmem)

/-- The host ends at the colon of the port. -/
theorem splitPort_plain {host : List Char} (port : Option Int) (hcolon : ':' ∉ host)
    (hbracket : '[' ∉ host) : (splitPort (host ++ portText port)).1 = host := by
  have hhead : (host ++ portText port).head? ≠ some '[' := fun h =>
    (List.mem_append.mp (List.mem_of_head? h)).elim hbracket (portText_ne (by decide))
  have hport : (portText port).takeWhile (· != ':') = [] := by
    rcases port with - | n
    · rfl
    · rfl
  rw [splitPort]
  simp only [hhead, decide_false, Bool.false_and, Bool.false_eq_true, if_false,
    List.span_eq_takeWhile_dropWhile]
  rw [List.takeWhile_append_of_pos (all_ne hcolon), hport, List.append_nil]

/-- A host in brackets ends with the last closing one. -/
theorem splitPort_bracketed (inner : List Char) {rest : List Char} (hrest : ']' ∉ rest) :
    (splitPort ('[' :: inner ++ ']' :: rest)).1 = '[' :: inner ++ [']'] := by
  have hskip : ']' ∉ rest.reverse := fun hc => hrest (List.mem_reverse.mp hc)
  have hbrackets : (('[' :: inner ++ ']' :: rest).reverse.dropWhile (· != ']')).reverse
      = '[' :: inner ++ [']'] := by
    rw [List.reverse_append, List.reverse_cons, List.append_assoc,
      List.dropWhile_append_of_pos (all_ne hskip)]
    simp
  unfold splitPort
  rw [hbrackets]
  rfl

/-! ## Users -/

/-- The user ends at the last at sign. -/
theorem afterUser_append (user : List Char) {rest : List Char} (h : '@' ∉ rest) :
    afterUser (user ++ '@' :: rest) = rest := by
  have hrest : '@' ∉ rest.reverse := fun hc => h (List.mem_reverse.mp hc)
  rw [afterUser, List.reverse_append, List.reverse_cons, List.append_assoc,
    List.takeWhile_append_of_pos (all_ne hrest)]
  simp

theorem afterUser_of_not_mem {rest : List Char} (h : '@' ∉ rest) : afterUser rest = rest := by
  have hrest : '@' ∉ rest.reverse := fun hc => h (List.mem_reverse.mp hc)
  rw [afterUser, List.takeWhile_eq_self_iff.mpr (all_ne hrest), List.reverse_reverse]

/-! ## From one form to the next -/

namespace Reference

/-- **What parts make a reference**: the form of its host, and a port that can be read. -/
theorem server_of_ofParts? {p : Parts} {r : Reference} (h : ofParts? p = some r) :
    hostForm? (splitPort (afterUser p.authority)).1 = some r.host.toList ∧
      (∃ n, portForm? p.scheme (splitPort (afterUser p.authority)).2 = some n) ∧
      r.scheme = String.ofList (p.scheme.map Char.toLower) := by
  obtain ⟨host, hhost, h⟩ := Option.bind_eq_some_iff.mp h
  obtain ⟨port, hport, h⟩ := Option.bind_eq_some_iff.mp h
  dsimp only at h
  split at h
  · contradiction
  · obtain rfl := Option.some.inj h
    refine ⟨?_, ⟨port, hport⟩, rfl⟩
    rw [String.toList_ofList]
    exact hhost

/-- What is read is made of its parts. -/
theorem ofParts?_of_read? {address : String} {r : Reference} (h : read? address = some r) :
    isReadable address.toList = true ∧ ofParts? (.of address.toList) = some r := by
  unfold read? at h
  dsimp only at h
  split at h
  · next hreadable => exact ⟨hreadable, h⟩
  · contradiction

/-- The host of a reference as an authority has it. -/
def hostText (r : Reference) : List Char :=
  if r.host.toList.contains ':' then '[' :: r.host.toList ++ [']'] else r.host.toList

/-- The host is read again from where it was written. -/
theorem afterUser_authority {r : Reference} (h : '@' ∉ r.host.toList) :
    afterUser r.authority = r.hostText ++ portText r.port := by
  have hrest : '@' ∉ r.hostText ++ portText r.port := by
    intro hmem
    rcases List.mem_append.mp hmem with hmem | hmem
    · unfold hostText at hmem
      split at hmem
      · simp [h] at hmem
      · exact h hmem
    · exact portText_ne (by decide) hmem
  have hauthority : r.authority
      = (if r.userinfo = "" then [] else r.userinfo.toList ++ ['@']) ++
        (r.hostText ++ portText r.port) := by
    rw [← List.append_assoc]
    rfl
  rw [hauthority]
  split
  · exact afterUser_of_not_mem hrest
  · rw [List.append_assoc]
    exact afterUser_append _ hrest

/-- A reference that another one becomes with another path and query. -/
def Retargets (r r' : Reference) : Prop :=
  ∃ path query, ofParts? { r.parts with path := path, query := query } = some r'

/-- A reference to this machine. -/
def AtHome (r : Reference) : Prop :=
  r.host ∈ Settings.localHosts

namespace Retargets

variable {r r' : Reference} (h : r.Retargets r')
include h

theorem scheme : r'.scheme = String.ofList (r.scheme.toList.map Char.toLower) := by
  obtain ⟨path, query, h⟩ := h
  exact (server_of_ofParts? h).2.2

theorem hostForm : hostForm? (splitPort (afterUser r.authority)).1 = some r'.host.toList := by
  obtain ⟨path, query, h⟩ := h
  exact (server_of_ofParts? h).1

/-- **A name of this machine stays.** -/
theorem atHome (hr : r.AtHome) : r'.AtHome := by
  have hform := h.hostForm
  have hname : r.host ∈ ["localhost", "127.0.0.1"] ∨ r.host = "::1" := by
    simpa [AtHome, Settings.localHosts, or_assoc] using hr
  have hsame : hostForm? (splitPort (afterUser r.authority)).1 = some r.host.toList := by
    rcases hname with hname | hname
    · have hplain : ∀ name ∈ ["localhost", "127.0.0.1"], '@' ∉ name.toList ∧ ':' ∉ name.toList ∧
          '[' ∉ name.toList ∧ hostForm? name.toList = some name.toList := by decide
      obtain ⟨huser, hcolon, hbracket, hkept⟩ := hplain r.host hname
      have htext : r.hostText = r.host.toList := if_neg (by simpa using hcolon)
      rw [afterUser_authority huser, htext, splitPort_plain r.port hcolon hbracket, hkept]
    · have huser : '@' ∉ r.host.toList := by rw [hname]; decide
      have htext : r.hostText ++ portText r.port
          = '[' :: "::1".toList ++ ']' :: portText r.port := by
        rw [hostText, hname]
        rfl
      rw [afterUser_authority huser, htext, splitPort_bracketed _ (portText_ne (by decide)), hname]
      decide
  rw [AtHome, ← String.toList_inj.mp (Option.some.inj (hsame.symm.trans hform))]
  exact hr

end Retargets

end Reference

end PageSync.Url
