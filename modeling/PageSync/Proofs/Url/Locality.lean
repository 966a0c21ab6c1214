import PageSync.Proofs.Url.Reading
import PageSync.Service.Connection
import PageSync.Service.Endpoint

/-!
# Proofs/Url/Locality — what is requested in clear stays on this machine

Between an address that was accepted and a request lie the base of all requests, the path that is
put behind it and the query.  Each step reads the server again from what it was written as
(`Reference.Reaches`), and keeps a name of this machine.  An accepted address in clear has one
(`atHome_of_accepted`), so no request in clear leaves (`Connection.clear_request_stays`).
-/

namespace PageSync.Url

/-! ## From the base to a request -/

namespace Reference

/-- Lower case has no other lower case. -/
theorem toLower_toLower (c : Char) : c.toLower.toLower = c.toLower := by
  have hascii : ∀ c : Char, c.toNat < 128 → c.toLower.toLower = c.toLower :=
    char_of_lt (by decide)
  by_cases hlt : c.toNat < 128
  · exact hascii c hlt
  · have hsame : c.toLower = c := by
      refine dif_neg fun hupper => hlt ?_
      exact Nat.lt_of_le_of_lt (show c.toNat ≤ 'Z'.toNat from hupper.2) (by decide)
    rw [hsame, hsame]

/-- A reference that another one becomes through any number of paths and queries. -/
abbrev Reaches : Reference → Reference → Prop :=
  Relation.ReflTransGen Retargets

theorem retargets_of_withTarget? {r r' : Reference} {target : List Char}
    (h : r.withTarget? target = some r') : r.Retargets r' := by
  unfold withTarget? at h
  dsimp only at h
  split at h
  · exact ⟨_, _, h⟩
  · contradiction

theorem retargets_of_withQuery? {r r' : Reference} {query : Option (List Char)}
    (h : r.withQuery? query = some r') : r.Retargets r' := by
  unfold withQuery? at h
  split at h
  · exact ⟨_, _, h⟩
  · contradiction

/-- A path is no address of its own. -/
theorem isAbsolute_of_path {path : String} {r : Reference} (hpath : path.toList.head? = some '/')
    (h : read? path = some r) : r.isAbsolute = false := by
  obtain ⟨rest, hrest⟩ := List.head?_eq_some_iff.mp hpath
  have hnone : (schemeOf path.toList).1 = [] := by
    rcases schemeOf_cases path.toList with hnone | ⟨c, more, rest', hcs, hc, -, -⟩
    · exact hnone
    · rw [hrest] at hcs
      obtain ⟨rfl, -⟩ := List.cons.inj hcs
      exact absurd hc (by decide)
  have hscheme : r.scheme = String.ofList ((schemeOf path.toList).1.map Char.toLower) :=
    (server_of_ofParts? (ofParts?_of_read? h).2).2.2
  rw [isAbsolute, hscheme, hnone]
  rfl

namespace Reaches

variable {r url : Reference} (h : r.Reaches url)
include h

theorem atHome (hr : r.AtHome) : url.AtHome := by
  induction h with
  | refl => exact hr
  | tail _ hstep ih => exact hstep.atHome ih

/-- The scheme is in lower case from the first reading on, and stays. -/
theorem scheme {address : String} (hread : read? address = some r) : url.scheme = r.scheme := by
  have hlower : ∀ s : List Char, (String.ofList (s.map Char.toLower)).toList.map Char.toLower
      = s.map Char.toLower := fun s => by
    rw [String.toList_ofList, List.map_map]
    exact List.map_congr_left fun c _ => toLower_toLower c
  have hr : String.ofList (r.scheme.toList.map Char.toLower) = r.scheme := by
    rw [(server_of_ofParts? (ofParts?_of_read? hread).2).2.2, hlower]
  induction h with
  | refl => rfl
  | tail _ hstep ih => rw [hstep.scheme, ih, hr]

end Reaches

end Reference

open Reference

/-- The base of all requests is reached from the address it was read from. -/
theorem reaches_base {address : String} {base : Reference} (h : base? address = some base) :
    ∃ r, read? address = some r ∧ r.Reaches base := by
  obtain ⟨r, hread, h⟩ := Option.bind_eq_some_iff.mp h
  refine ⟨r, hread, ?_⟩
  split at h
  · obtain rfl := Option.some.inj h
    exact .refl
  · exact .single (retargets_of_withTarget? h)

/-- The address of a request for a path is reached from the base. -/
theorem reaches_request {base url : Reference} {path : String} {params : Option Fields}
    (hpath : path.toList.head? = some '/') (h : request? base path params = some url) :
    base.Reaches url := by
  obtain ⟨joined, hjoined, h⟩ := Option.bind_eq_some_iff.mp h
  have hstep : base.Reaches joined := by
    obtain ⟨r, hread, hjoined⟩ := Option.bind_eq_some_iff.mp hjoined
    rw [isAbsolute_of_path hpath hread] at hjoined
    exact .single (retargets_of_withTarget? hjoined)
  rcases params with - | params
  · obtain rfl := Option.some.inj h
    exact hstep
  · exact hstep.tail (retargets_of_withQuery? h)

/-- **Where an accepted address is in clear**, it names this machine. -/
theorem judgedHome_of_accepted (k : Config)
    (hclear : (splitScheme (significant k.settings.baseUrl.toList)).1 = "http") :
    ∃ name, JudgedHome (judgedNetloc k.settings.baseUrl) name := by
  have h := k.accepted
  unfold Settings.check at h
  split at h
  · contradiction
  · next scheme host hread =>
    obtain ⟨rfl, hchecked, hhost⟩ := eq_of_schemeAndHost hread
    split at h
    · contradiction
    · next hsecure =>
      rw [hclear] at hsecure
      -- an address in clear without a host is refused, too
      rcases host with - | name
      · exact absurd rfl hsecure
      · exact ⟨name, hchecked, hhost, by simpa [Settings.isSecure] using hsecure⟩

/-- **An accepted address that is requested in clear** is one of this machine. -/
theorem atHome_of_accepted (k : Config) {r : Reference}
    (hread : read? k.settings.baseUrl = some r) (hclear : r.scheme = "http") : r.AtHome := by
  obtain ⟨hscheme, hauthority⟩ := same_reading hread (by rw [hclear]; decide)
  obtain ⟨name, hjudged⟩ := judgedHome_of_accepted k (hscheme.trans hclear)
  obtain ⟨hform, ⟨port, hport⟩, -⟩ := server_of_ofParts? (ofParts?_of_read? hread).2
  rw [← hauthority] at hform hport
  rw [AtHome, String.toList_inj.mp (hjudged.form_eq hform hport)]
  exact hjudged.isLocal

end PageSync.Url

namespace PageSync

/-- The paths of the calls for blocks, pages and databases. -/
def Endpoint.IsPath (path : String) : Prop :=
  path = pagesPath ∨
    ∃ id, path = blockPath id ∨ path = childrenPath id ∨ path = pagePath id ∨ path = queryPath id

theorem Endpoint.IsPath.head? {path : String} (h : IsPath path) :
    path.toList.head? = some '/' := by
  rcases h with rfl | ⟨id, rfl | rfl | rfl | rfl⟩
  · rfl
  all_goals simp [blockPath, childrenPath, pagePath, queryPath]

namespace Connection

/-- **A request in clear stays on this machine**, whatever the address that was accepted and the
path behind it. -/
theorem clear_request_stays (c : Connection) {path : String} (hpath : Endpoint.IsPath path)
    {params : Option Fields} {url : Url.Reference}
    (hurl : Url.request? c.base path params = some url) (hclear : url.scheme = "http") :
    url.host ∈ Settings.localHosts := by
  obtain ⟨r, hread, hbase⟩ := Url.reaches_base c.isBase
  have hreaches : r.Reaches url := hbase.trans (Url.reaches_request hpath.head? hurl)
  have hscheme : r.scheme = "http" := (hreaches.scheme hread).symm.trans hclear
  exact hreaches.atHome (Url.atHome_of_accepted c.config hread hscheme)

/-- A user, upper case and a port do not matter: this one stays. -/
theorem clear_request_stays_shown :
    ∃ (c : Connection) (url : Url.Reference),
      c.settings.baseUrl = "http://user@LOCALHOST:8080/v1" ∧
      Endpoint.IsPath (Endpoint.pagePath (.str "p")) ∧
      Url.request? c.base (Endpoint.pagePath (.str "p")) none = some url ∧ url.scheme = "http" ∧
      url.host ∈ Settings.localHosts :=
  have hpath : Endpoint.IsPath (Endpoint.pagePath (.str "p")) :=
    .inr ⟨.str "p", .inr (.inr (.inl rfl))⟩
  let c : Connection := {
    config := ⟨{ Settings.default with baseUrl := "http://user@LOCALHOST:8080/v1" },
      by decide +kernel⟩
    base := ⟨"http", "user", "localhost", some 8080, "/v1/", none, none⟩
    isBase := by decide +kernel }
  have hurl : Url.request? c.base (Endpoint.pagePath (.str "p")) none
      = some ⟨"http", "user", "localhost", some 8080, "/v1/pages/p", none, none⟩ := by
    decide +kernel
  ⟨c, _, rfl, hpath, hurl, rfl, clear_request_stays c hpath hurl rfl⟩

end Connection

end PageSync
