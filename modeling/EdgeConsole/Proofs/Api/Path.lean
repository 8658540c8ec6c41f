import EdgeConsole.Proofs.Api.Target
import EdgeConsole.Proofs.Text.Pieces
import EdgeConsole.Proofs.Web.Form

/-!
# Paths taken apart

Since no slash is left in an escape, the path of an item is cut at its slashes into the words and
the number that were put there, the parts of the kind as they are, and one part for each of the two
identifiers, from which the identifier is read back (`pieces_itemPath`). The path of the search is
cut at its question mark, on the wire too: behind an endpoint without a query and without a fragment
it is asked for as it is (`exists_target_search`), and no question mark is in front of it
(`pieces_target_search`).
-/

namespace EdgeConsole.Api

open Text (pieces)
open Web (Url escape unescape? IsEscaped)

/-! ## Items -/

theorem itemPath_eq (service : String) (version : UInt32) (segment name : String) :
    itemPath service version segment name = "/".intercalate
      ["", "service", escape service, "version", toString version.toNat, segment, escape name] := by
  apply String.toList_inj.mp
  simp only [itemPath, collectionPath, versionPath, versionsPath, servicePath,
    String.toList_append, String.toList_intercalate]
  simp [List.intercalate_cons_cons]

theorem slash_not_mem_toString (n : Nat) : '/' ∉ (toString n).toList := by
  rw [← Part.escape_toString]
  exact Web.not_mem_escape rfl _

/-- The path of an item is cut where its parts were put together. -/
theorem pieces_itemPath (service : String) (version : UInt32) (segment name : String) :
    pieces '/' (itemPath service version segment name) =
      ["", "service", escape service, "version", toString version.toNat] ++ pieces '/' segment ++
        [escape name] := by
  have hescape (s : String) : pieces '/' (escape s) = [escape s] :=
    Text.pieces_of_not_mem (Web.not_mem_escape rfl s)
  have hempty : pieces '/' "" = [""] := Text.pieces_of_not_mem (by decide)
  have hservice : pieces '/' "service" = ["service"] := Text.pieces_of_not_mem (by decide)
  have hword : pieces '/' "version" = ["version"] := Text.pieces_of_not_mem (by decide)
  have hnumber : pieces '/' (toString version.toNat) = [toString version.toNat] :=
    Text.pieces_of_not_mem (slash_not_mem_toString _)
  have hcut := @Text.pieces_intercalate '/' _ (List.cons_ne_nil ""
    ["service", escape service, "version", toString version.toNat, segment, escape name])
  simp only [List.flatMap_cons, List.flatMap_nil, hescape, hempty, hservice, hword, hnumber] at hcut
  rw [itemPath_eq]
  exact hcut

/-! ## The search for a service -/

/-- The path of the search for a name. -/
def searchPath (name : String) : String := "/service/search?name=" ++ escape name

theorem searchPath_eq (name : String) :
    searchPath name =
      "/service/search" ++ String.singleton '?' ++ (escape "name" ++ "=" ++ escape name) := by
  have hword : "/service/search?name=" =
      "/service/search" ++ String.singleton '?' ++ (escape "name" ++ "=") := by decide
  refine (congrArg (· ++ escape name) hword).trans ?_
  simp only [String.append_assoc]

/-- The search as an address. -/
def searchAddress (name : String) : Address := ⟨[.word .service, .word .search], some name⟩

theorem text_searchAddress (name : String) : (searchAddress name).text = searchPath name :=
  text_search name

theorem isRooted_searchAddress (name : String) : (searchAddress name).IsRooted := ⟨_, _, rfl⟩

theorem isUndotted_searchAddress (name : String) : (searchAddress name).IsUndotted :=
  show ∀ p ∈ [Part.word .service, Part.word .search], p.isDotted = false by decide

section Search

variable {key e : String} {agent : Agent} {c : Client} {name : String} {r : Request}

/-- Behind an endpoint without a query and without a fragment, the search path is asked for as it
is. -/
theorem exists_target_search (hc : Client.of? key e agent = .ok c)
    (hfree : ∀ d ∈ e.toList, Web.Url.endsPath d = false)
    (hr : c.request? .get (searchPath name) none = some r) :
    ∃ base : String, '?' ∉ base.toList ∧ r.target = base ++ searchPath name := by
  have hrooted := isRooted_searchAddress name
  rw [← text_searchAddress] at hr ⊢
  obtain ⟨f, hf⟩ := Client.exists_front_of_request hc hrooted hr
  have hpath : f.IsPath := by
    rw [Client.endpoint_of_of? hc] at hf
    exact isPath_of_free hf hfree
  obtain ⟨v, hv, -, rfl⟩ := Client.exists_url_of_request hr
  obtain rfl := Except.ok.inj ((Client.ofText_url hf hrooted).symm.trans hv)
  refine ⟨String.ofList (Web.Url.joined (Web.Url.settled f.segments)), ?_, ?_⟩
  · rw [String.toList_ofList]
    intro hmem
    obtain ⟨n, hchars⟩ := Web.Url.Front.exists_pathChars_url hpath
    have hends := Web.Url.Front.endsPath_of_mem_pathChars (f := f)
      (hchars ▸ List.mem_append_left _ hmem)
    exact absurd hends (by decide)
  · apply String.toList_inj.mp
    rw [String.toList_append, String.toList_ofList]
    exact toList_target_extend hpath hrooted (isUndotted_searchAddress name)

/-- What is asked for is cut at the one question mark in it. -/
theorem pieces_target_search {base : String} (hbase : '?' ∉ base.toList) (name : String) :
    pieces '?' (base ++ searchPath name) =
      [base ++ "/service/search", escape "name" ++ "=" ++ escape name] := by
  have hparts : base ++ searchPath name = base ++ "/service/search" ++
      String.singleton '?' ++ (escape "name" ++ "=" ++ escape name) := by
    rw [searchPath_eq]
    simp only [String.append_assoc]
  have hfront : '?' ∉ (base ++ "/service/search").toList := by
    rw [String.toList_append, List.mem_append]
    rintro (hmem | hmem)
    · exact hbase hmem
    · exact absurd hmem (by decide)
  have hquery : '?' ∉ (escape "name" ++ "=" ++ escape name).toList := by
    rw [String.toList_append, String.toList_append, List.mem_append, List.mem_append]
    rintro ((hmem | hmem) | hmem)
    · exact Web.not_mem_escape rfl _ hmem
    · exact absurd hmem (by decide)
    · exact Web.not_mem_escape rfl _ hmem
  rw [hparts, Text.pieces_append, Text.pieces_of_not_mem hfront, Text.pieces_of_not_mem hquery]
  rfl

/-- A client of a usable endpoint can ask for the search path. -/
theorem exists_request_search {u : Url} (hc : Client.of? key e agent = .ok c)
    (hu : Url.ofText e = .ok u) (hsend : isSendable u = true) (husable : IsUsable e)
    (name : String) : ∃ r, c.request? .get (searchPath name) none = some r := by
  have hplaces : c.Places u (searchAddress name).text :=
    (places_address_iff (Client.endpoint_of_of? hc) hu (schemeKind_of_isSendable hsend)
      (isRooted_searchAddress name) (isUndotted_searchAddress name)).mpr husable
  rw [text_searchAddress] at hplaces
  obtain ⟨v, hv, hscheme, -⟩ := hplaces
  have hsendable : isSendable v = true := by
    rw [isSendable, hscheme]
    exact hsend
  rw [Client.request?, hv]
  exact ⟨_, if_pos hsendable⟩

/-- The search for a name sends its request. -/
theorem requests_searchService (hname : name ≠ "")
    (hr : c.request? .get (searchPath name) none = some r) {s : Session} {plan : List Planned}
    (hplan : s.server = .scripted plan) :
    ((c.run (searchService name)).run.run s).2.requests = s.requests ++ [r] := by
  let o : Operation Resource.Service :=
    .plain .get (searchPath name) (readItem Resource.serviceSchema)
  have ho : searchService name = .ok o := by
    have hgiven : (!name.isEmpty) = true := by simpa using hname
    rw [searchService, hgiven]
    rfl
  obtain ⟨t, hrun, ht⟩ := c.run_perform_of_some (s := s) o hr
  rw [Session.send_of_scripted hplan] at ht
  rw [ho, Client.run, hrun]
  exact ht.requests

end Search

/-! ## Reading back -/

/-- Escapes are texts of their alphabet and are read back. So the path of an item is cut into its
parts, the identifiers among them; and whatever a client asks for when it searches ends in the path
of the search as it is, with the name as the one value in the query. -/
theorem Client.escapes_read_back :
    (∀ s, IsEscaped (escape s).toList ∧ unescape? (escape s) = some s) ∧
      (∀ service version segment name, ∃ p q,
        pieces '/' (itemPath service version segment name) =
            ["", "service", p, "version", toString version.toNat] ++ pieces '/' segment ++ [q] ∧
          unescape? p = some service ∧ unescape? q = some name) ∧
      ∀ (key e : String) (agent : Agent) (c : Client), Client.of? key e agent = .ok c →
        (∀ d ∈ e.toList, Web.Url.endsPath d = false) → ∀ name,
          (∀ r, c.request? .get ("/service/search?name=" ++ escape name) none = some r →
            ∃ base query, r.target = base ++ ("/service/search?name=" ++ escape name) ∧
              pieces '?' r.target = [base ++ "/service/search", query] ∧
              Web.Form.decode? query = some [("name", name)]) ∧
          ∀ u, Url.ofText e = .ok u → isSendable u = true → IsUsable e → name ≠ "" →
            ∀ (s : Session) plan, s.server = .scripted plan → ∃ r,
              c.request? .get ("/service/search?name=" ++ escape name) none = some r ∧
                ((c.run (searchService name)).run.run s).2.requests = s.requests ++ [r] := by
  refine ⟨fun s => ⟨Web.isEscaped_escape s, Web.unescape?_escape s⟩, ?_, ?_⟩
  · intro service version segment name
    exact ⟨_, _, pieces_itemPath service version segment name, Web.unescape?_escape service,
      Web.unescape?_escape name⟩
  · intro key e agent c hc hfree name
    constructor
    · intro r hr
      obtain ⟨base, hbase, htarget⟩ := exists_target_search hc hfree hr
      refine ⟨base, _, htarget, ?_, Web.Form.decode?_escape "name" name⟩
      rw [htarget]
      exact pieces_target_search hbase name
    · intro u hu hsend husable hname s plan hplan
      obtain ⟨r, hr⟩ := exists_request_search hc hu hsend husable name
      exact ⟨r, hr, requests_searchService hname hr hplan⟩

/-- The case of a loopback address. -/
theorem Client.escapes_read_back_loopback :
    ∃ c, Client.of? "key" "http://[::1]:8080" = .ok c ∧
      (∀ d ∈ "http://[::1]:8080".toList, Web.Url.endsPath d = false) ∧
      IsUsable "http://[::1]:8080" ∧
      ∃ r : Request, (∃ base, r.target = base ++ "/service/search?name=a%2Fb%26c") ∧
        ((c.run (searchService "a/b&c")).run.run (.start (.scripted []))).2.requests = [r] := by
  obtain ⟨c, hc⟩ := exists_client_loopback
  have hs := isServer_loopback
  obtain ⟨htarget, hsent⟩ :=
    Client.escapes_read_back.2.2 _ _ _ c hc hs.usable.free "a/b&c"
  obtain ⟨r, hr, hrequests⟩ :=
    hsent _ hs.read hs.sendable hs.usable (by decide) (.start (.scripted [])) [] rfl
  obtain ⟨base, query, hbase, -⟩ := htarget r hr
  refine ⟨c, hc, hs.usable.free, hs.usable, r, ⟨base, ?_⟩, hrequests⟩
  rw [hbase]
  exact congrArg (base ++ ·) (by decide)

end EdgeConsole.Api
