import EdgeConsole.Proofs.Api.Endpoint
import EdgeConsole.Proofs.Api.Exchange

/-!
# Validation comes first

On a client for a server as a whole, an invocation that lacks an identifier does nothing at all, and
one that lacks none sends exactly one request: that of the catalogue, whatever the server has ready
for it (`Client.run_prepared`).

What the server is asked for is the resolved address (`Address.target`), which is the path itself
unless an identifier is dotted.
-/

namespace EdgeConsole.Api

open Web (Url)
open Web.Url (Front IsSegment joined searched settled)

/-! ## Servers -/

/-- The endpoint is the address of a server and of no place on it. -/
structure IsServer (e : String) (u : Url) : Prop where
  read : Url.ofText e = .ok u
  sendable : isSendable u = true
  usable : IsUsable e
  root : u.target = "/"

/-- The path and query that a server is asked for. -/
def Address.target (a : Address) : String :=
  String.ofList (joined (Web.Url.resolve [] (a.parts.map Part.chars)) ++ searched a.query?)

/-- A server is asked for the path itself, unless an identifier is dotted. -/
theorem Address.target_eq_text {a : Address} (h : a.IsUndotted) : a.target = a.text := by
  have hplain : ∀ s ∈ a.parts.map Part.chars, Web.Url.IsPlain s := fun s hs => h.isPlain_of_mem hs
  rw [target, text, Web.Url.resolve_eq, Web.Url.foldl_enter_of_isPlain hplain,
    Web.Url.closing_of_isPlain hplain, List.append_nil, List.append_nil, List.reverse_reverse]

/-- Nothing stays in front of the paths on a server. -/
theorem IsServer.exists_front {e : String} {u : Url} (h : IsServer e u) :
    ∃ f : Front, f.IsOf (Web.Url.opening (trimSlashes e).toList) ∧ f.IsPath ∧
      settled f.segments = [] ∧ f.scheme = u.scheme := by
  obtain ⟨f, k, hf, hu⟩ := exists_base h.usable.closed h.read (schemeKind_of_isSendable h.sendable)
  have hpath := isPath_of_free hf h.usable.free
  have hgap := (noGap_iff hf hpath).mp h.usable.noGap
  refine ⟨f, hf, hpath, ?_, by rw [hu]; rfl⟩
  cases hsettled : settled f.segments with
  | nil => rfl
  | cons s rest =>
    obtain ⟨n, hn⟩ := Front.exists_pathChars_extend hpath k
    rw [← hu, hsettled, Web.Url.joined_cons] at hn
    have htarget := toList_target (u := u) (by rw [hn]; exact List.cons_ne_nil _ _)
    rw [h.root, hn] at htarget
    have htail := (List.cons.inj htarget).2
    have hnone : s ++ joined rest = [] :=
      (List.append_eq_nil_iff.mp (List.append_eq_nil_iff.mp htail.symm).1).1
    rw [hsettled, Web.Url.joined_cons, hnone] at hgap
    exact absurd ⟨[], rfl⟩ hgap

/-- The request that a client for a server sends for an address. -/
theorem Client.request?_of_isServer {key e : String} {agent : Agent} {c : Client} {u : Url}
    (hc : Client.of? key e agent = .ok c) (hs : IsServer e u) {a : Address} (ha : a.IsRooted)
    (method : Method) (form? : Option (List Web.Form.Pair)) :
    c.request? method a.text form? = some ⟨method, a.target, form?, c.key, c.agent⟩ := by
  obtain ⟨f, hf, hpath, hsettled, hscheme⟩ := hs.exists_front
  rw [← Client.endpoint_of_of? hc] at hf
  have hquery : ∀ q ∈ a.query?, ∀ d ∈ q, Web.Url.isQueryChar .web d = true :=
    fun q hq d hd => Address.isQueryChar_of_mem hq hd
  have hurl := Front.url_extend hpath ha.parts_ne_nil (fun s hs => Address.isSegment_of_mem hs)
    hquery
  rw [← Address.toList_text, Web.Url.resolve_append ha.parts_ne_nil, hsettled,
    List.reverse_nil] at hurl
  have hpathChars : (f.extend a.text.toList).url.pathChars =
      joined (Web.Url.resolve [] (a.parts.map Part.chars)) := by
    rw [hurl]
    rfl
  have htarget : (f.extend a.text.toList).url.target = a.target := by
    apply String.toList_inj.mp
    rw [toList_target, hpathChars, hurl, Address.target, String.toList_ofList]
    rw [hpathChars]
    cases hsegments : Web.Url.resolve [] (a.parts.map Part.chars) with
    | nil => exact absurd hsegments (Web.Url.resolve_ne_nil ha.parts_ne_nil _)
    | cons s rest => exact List.cons_ne_nil _ _
  have hsendable : isSendable (f.extend a.text.toList).url = true := by
    have hsame : (f.extend a.text.toList).url.scheme = u.scheme := hscheme
    rw [isSendable, hsame]
    exact hs.sendable
  rw [Client.request?, Client.ofText_url hf ha]
  dsimp only
  rw [if_pos hsendable, htarget]

/-- A server on a loopback address. -/
theorem isServer_loopback : IsServer "http://[::1]:8080"
    ⟨"http".toList, some (.address6 [0, 0, 0, 0, 0, 0, 0, 1]), some 8080, .segments [[]], none⟩ where
  read := rfl
  sendable := rfl
  usable := {
    free := Web.Url.forall_eq_false_of_any (by decide)
    closed := by decide
    noGap := by
      intro v hv
      have hread : Url.ofText "http://[::1]:8080/" =
          .ok ⟨"http".toList, some (.address6 [0, 0, 0, 0, 0, 0, 0, 1]), some 8080,
            .segments [[]], none⟩ := rfl
      have htext : trimSlashes "http://[::1]:8080" ++ "/" = "http://[::1]:8080/" := by decide
      rw [htext] at hv
      obtain rfl := Except.ok.inj (hread.symm.trans hv)
      decide }
  root := by decide

theorem exists_client_loopback : ∃ c, Client.of? "key" "http://[::1]:8080" = .ok c :=
  ⟨_, Client.of?_eq_ok "key" .console rfl isServer_loopback.read rfl⟩

/-! ## Runs -/

variable {key e : String} {agent : Agent} {c : Client} {u : Url}

/-- The request that an invocation sends which lacks no identifier, with the form that its operation
was given. -/
def Client.sends (c : Client) {i : Invocation} (o : Operation i.Result) : Request :=
  ⟨i.demand.method, i.demand.address.target, o.form?, c.key, c.agent⟩

/-- An invocation that lacks no identifier sends its request, and nothing else. -/
theorem Client.run_of_isGiven (hc : Client.of? key e agent = .ok c) (hs : IsServer e u)
    {i : Invocation} (hgiven : i.demand.firstMissing? = none) (s : Session) {plan : List Planned}
    (hplan : s.server = .scripted plan) :
    ∃ o : Operation i.Result, i.prepared = .ok o ∧ o.Meets i.demand ∧
      ((c.run i.prepared).run.run s).2.requests = s.requests ++ [c.sends o] ∧
      ((c.run i.prepared).run.run s).2.server =
        .scripted (takeAnswer (c.sends o).line plan).2 := by
  obtain ⟨o, ho⟩ := Invocation.exists_prepared_eq_ok_iff.mpr hgiven
  have hmeets := Invocation.meets_of_prepared ho
  have hrequest : c.request? o.method o.path o.form? = some (c.sends o) := by
    rw [hmeets.path, hmeets.method]
    exact Client.request?_of_isServer hc hs i.isRooted_address _ _
  obtain ⟨t, hrun, ht⟩ := c.run_perform_of_some (s := s) o hrequest
  rw [Session.send_of_scripted hplan] at ht
  have hsession : ((c.run i.prepared).run.run s).2 = t := by
    rw [ho]
    exact congrArg Prod.snd hrun
  refine ⟨o, ho, hmeets, ?_, ?_⟩
  · rw [hsession]
    exact ht.requests
  · rw [hsession]
    exact ht.server

/-- A call that lacks an identifier does nothing but say so, with the first that is missing; any
other sends one request, the one of the catalogue, and the server uses the answer that it has ready
for it. -/
theorem Client.run_prepared {key e : String} {agent : Agent} {c : Client} {u : Url}
    (hc : Client.of? key e agent = .ok c) (hs : IsServer e u) (i : Invocation) (s : Session)
    (plan : List Planned) (hplan : s.server = .scripted plan) :
    match i.demand.firstMissing? with
    | some m => (c.run i.prepared).run.run s = (.error (.missing m), s)
    | none => ∃ r : Request,
      ((c.run i.prepared).run.run s).2.requests = s.requests ++ [r] ∧
      ((c.run i.prepared).run.run s).2.server = .scripted (takeAnswer r.line plan).2 ∧
      r.method = i.demand.method ∧ r.target = i.demand.address.target ∧
      (i.demand.address.IsUndotted → r.target = i.demand.address.text) ∧
      r.contentType?.isSome = i.demand.sendsForm := by
  cases hm : i.demand.firstMissing? with
  | some m =>
    rw [Invocation.prepared_eq_error_iff.mpr hm]
    rfl
  | none =>
    obtain ⟨o, -, hmeets, hrequests, hserver⟩ := c.run_of_isGiven hc hs hm s hplan
    refine ⟨c.sends o, hrequests, hserver, rfl, rfl, Address.target_eq_text, ?_⟩
    rw [Request.contentType?, Option.isSome_map]
    exact hmeets.form

/-- The case of a backend without a name, and of a service that is fetched. -/
theorem Client.run_prepared_loopback :
    ∃ c u, Client.of? "key" "http://[::1]:8080" = .ok c ∧ IsServer "http://[::1]:8080" u ∧
      (c.run (getItem .backend ⟨⟨"abc", 1⟩, ""⟩)).run.run (.start (.scripted [])) =
        (.error (.missing .name), .start (.scripted [])) ∧
      ∃ r : Request, r.target = "/service/abc" ∧
        ((c.run (getService "abc")).run.run (.start (.scripted []))).2.requests = [r] := by
  have hc := Client.of?_eq_ok "key" .console rfl isServer_loopback.read rfl
  have hmissing := Client.run_prepared hc isServer_loopback
    (.resource (.get .backend ⟨⟨"abc", 1⟩, ""⟩)) (.start (.scripted [])) [] rfl
  have hsent := Client.run_prepared hc isServer_loopback (.getService "abc")
    (.start (.scripted [])) [] rfl
  obtain ⟨r, hrequests, -, -, htarget, -⟩ := hsent
  refine ⟨_, _, hc, isServer_loopback, hmissing, r, ?_, hrequests⟩
  rw [htarget]
  decide

end EdgeConsole.Api
