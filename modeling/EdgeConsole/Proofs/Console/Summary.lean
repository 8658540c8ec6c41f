import EdgeConsole.Proofs.Api.RequestLine
import EdgeConsole.Proofs.Api.Target
import EdgeConsole.Proofs.Console.Signature
import EdgeConsole.Proofs.Console.Version

/-!
# Summaries do not depend on timing

A summary lists several kinds that belong to a version, all at once. Each listing is a process, and
the listings of different kinds ask different lines, because their paths end differently. So when
every answer is meant for one line, a kind comes to what its listing comes to when it is carried out
alone (`alone`), whatever becomes of the other kinds and in whatever order the requests arrive.

`summary_isolates` says so of the team of all listings, whose runs are all the orders, and of
`summary`, which lists the kinds one after the other. It needs an endpoint without a fragment. A
fragment takes in the paths of all kinds, which are then listed with one request and take each
other's answers (`run_summary_of_shared`).
-/

namespace EdgeConsole.Console

open Api
open Resource (VersionedKind)

variable (c : Client) (ctx : Context)

/-! ## One listing -/

/-- The request with which the resources of a kind are listed. -/
def IsListing (k : VersionedKind) (r : Request) : Prop :=
  c.requestOf? (listItems k ctx.versionRef) = some r

/-- What a kind comes to when nothing else is listed. -/
def alone (s : Session) (k : VersionedKind) : Except Problem (List Json) :=
  ((list c ctx k.key).run.run s).1

theorem isStepwise_list (k : VersionedKind) : IsStepwise (list c ctx k.key).run :=
  (goesAlike_list c c.key ctx k.key).isStepwise

/-- Whatever process a listing is, it asks the request of its kind only. -/
theorem asksOnly_of_does {k : VersionedKind} {p : Process (Except Problem (List Json))}
    (hp : p.Does (list c ctx k.key).run) : p.AsksOnly (IsListing c ctx k) := by
  apply Process.asksOnly_of_requests
  intro plan
  obtain ⟨hrequests, -⟩ := run_list_of_scripted c ctx k (s := .start (.scripted plan)) rfl
  rw [← hp] at hrequests
  refine ⟨.start (.scripted plan), _, rfl, hrequests, ?_⟩
  intro r hr
  exact Option.mem_toList.mp hr

section Alone

variable {c ctx} {s t : Session} {k : VersionedKind}

/-- What a kind comes to depends on the answers to its own request alone. -/
theorem alone_congr (hs : s.server.IsAddressed) (ht : t.server.IsAddressed)
    (h : ∀ r, IsListing c ctx k r → s.server.ready? r.line = t.server.ready? r.line) :
    alone c ctx s k = alone c ctx t k := by
  obtain ⟨p, hp⟩ := isStepwise_list c ctx k
  rw [alone, alone, ← hp, ← hp]
  exact Process.run_congr (asksOnly_of_does c ctx hp) hs ht h

theorem keeps_list (hs : s.server.IsAddressed) :
    s.Keeps (IsListing c ctx k) ((list c ctx k.key).run.run s).2 := by
  obtain ⟨p, hp⟩ := isStepwise_list c ctx k
  rw [← hp]
  exact Process.keeps_run (asksOnly_of_does c ctx hp) hs

end Alone

/-- A listing comes to what is read in the answer to its request, and leaves the session in which
that was sent. -/
theorem exists_run_list {c : Client} {ctx : Context} {k : VersionedKind} {r : Request}
    (h : IsListing c ctx k r) (s : Session) :
    ∃ t, (list c ctx k.key).run.run s =
        ((((s.send r).1.judged.bind (readItems k.schema)).map
          fun items => (sortedByName VersionedKind.name items).map Record.Row.toJson).mapError
            Problem.api, t) ∧
      t.Agrees (s.send r).2 := by
  obtain ⟨o, ho, hread⟩ : ∃ o, listItems k ctx.versionRef = .ok o ∧ o.read = fun body =>
      (readItems k.schema body).map (sortedByName VersionedKind.name) := by
    unfold IsListing listItems checked at h
    unfold listItems checked
    split at h
    · cases h
    · exact ⟨_, rfl, rfl⟩
  rw [IsListing, ho] at h
  obtain ⟨t, hperform, hagrees⟩ := c.run_perform_of_some (s := s.note ..) o h
  obtain ⟨hanswer, hsent⟩ := (s.agrees_note .debug ("list: kind=" ++ k.key)).send r
  refine ⟨t, Prod.ext ?_ ?_, hagrees.trans hsent⟩
  · rw [run_list_versioned, fst_carried, ho, Client.run, hperform, hanswer, hread]
    cases (s.send r).1.judged with
    | error f => rfl
    | ok body =>
      dsimp only [Except.bind]
      cases readItems k.schema body <;> rfl
  · rw [run_list_versioned, snd_carried, ho, Client.run, hperform]

/-- A kind comes to what is read in the answer to its request. -/
theorem alone_of_isListing {c : Client} {ctx : Context} {k : VersionedKind} {r : Request}
    (h : IsListing c ctx k r) (s : Session) :
    alone c ctx s k = (((s.send r).1.judged.bind (readItems k.schema)).map
      fun items => (sortedByName VersionedKind.name items).map Record.Row.toJson).mapError
        Problem.api := by
  obtain ⟨t, hrun, -⟩ := exists_run_list h s
  rw [alone, hrun]

/-- A kind without items comes to no items. -/
theorem alone_of_nil {c : Client} {ctx : Context} {k : VersionedKind} {r : Request}
    (h : IsListing c ctx k r) {s : Session} (hs : (s.send r).1 = .saying (.list [])) :
    alone c ctx s k = .ok [] := by
  have hexact : (Json.list []).IsExact := .list (List.forall_mem_nil _)
  have htext : Json.readText (·.readList Json.depthLimit k.schema.read) (Json.list []).compact =
      .ok [] :=
    Json.readText_compact _ hexact
  have hread : readItems k.schema (Json.list []).compact = .ok [] := by
    rw [readItems, readBody, bodyOrNull_list, htext]
  rw [alone_of_isListing h, hs, judged_saying, Except.bind, hread, Except.map, sortedByName,
    sortedOn, List.mergeSort_nil]
  rfl

/-! ## The lines of different kinds -/

theorem isListing_iff {k : VersionedKind} {r : Request} : IsListing c ctx k r ↔
    ctx.versionRef.check = .ok () ∧ c.request? .get (ctx.versionRef.path k) none = some r := by
  unfold IsListing listItems checked
  cases ctx.versionRef.check with
  | error m =>
    constructor
    · intro h
      cases h
    · rintro ⟨h, -⟩
      cases h
  | ok u => exact (and_iff_right rfl).symm

/-- No two kinds are listed with one request line. -/
theorem line_ne_of_isListing {key e : String} {agent : Agent} {c : Client}
    (hc : Client.of? key e agent = .ok c) (hhash : '#' ∉ e.toList) {i j : VersionedKind}
    (hne : i ≠ j) (r r' : Request) (hr : IsListing c ctx i r) (hr' : IsListing c ctx j r') :
    r.line ≠ r'.line := by
  intro hline
  exact Client.target_ne_of_folder hc hhash hne ((isListing_iff c ctx).mp hr).2
    ((isListing_iff c ctx).mp hr').2 (Request.line_eq_iff.mp hline).2

/-- Behind an endpoint with a fragment all kinds are listed with one request. -/
theorem isListing_of_fragment {key e : String} {agent : Agent} {c : Client}
    (hc : Client.of? key e agent = .ok c) (hhash : '#' ∈ e.toList) {i : VersionedKind} {r : Request}
    (hr : IsListing c ctx i r) (j : VersionedKind) : IsListing c ctx j r := by
  obtain ⟨hcheck, hr⟩ := (isListing_iff c ctx).mp hr
  have hpath (k : VersionedKind) : ctx.versionRef.path k =
      Address.text { parts := ctx.versionRef.folder k } := by
    rw [Address.text_of_parts, partsText_folder]
  have hroot (k : VersionedKind) : Address.IsRooted { parts := ctx.versionRef.folder k } :=
    ⟨.service, _, rfl⟩
  rw [hpath] at hr
  refine (isListing_iff c ctx).mpr ⟨hcheck, ?_⟩
  rw [hpath]
  exact Client.request?_eq_of_fragment hc hhash (hroot i) (hroot j) hr

/-! ## One listing after the other -/

section Order

variable {c ctx} {kinds : List VersionedKind} {s : Session}

/-- The kinds of a summary do not notice one another. -/
theorem run_summary_eq {key e : String} {agent : Agent} (hc : Client.of? key e agent = .ok c)
    (hhash : '#' ∉ e.toList) (hkinds : kinds.Nodup) (hs : s.server.IsAddressed) :
    ((summary c ctx (kinds.map .versioned)).run s).1 =
      kinds.map fun k => (.versioned k, alone c ctx s k) := by
  induction kinds generalizing s with
  | nil => rfl
  | cons k kinds ih =>
    obtain ⟨hk, hkinds⟩ := List.nodup_cons.mp hkinds
    have hkeeps : s.Keeps (IsListing c ctx k) ((list c ctx k.key).run.run s).2 := keeps_list hs
    have hsummary : ((summary c ctx ((k :: kinds).map .versioned)).run s).1 =
        (.versioned k, alone c ctx s k) ::
          ((summary c ctx (kinds.map .versioned)).run ((list c ctx k.key).run.run s).2).1 := rfl
    rw [hsummary, ih hkinds hkeeps.addressed, List.map_cons]
    refine congrArg _ (List.map_congr_left fun j hj => ?_)
    have hne : k ≠ j := fun h => hk (h ▸ hj)
    rw [alone_congr hkeeps.addressed hs fun r hr => hkeeps.ready r.line fun q hq =>
      line_ne_of_isListing ctx hc hhash hne q r hq hr]

/-- A server that answers a line once, with no items, and then no more. -/
def answeringOnce (line : String) : Session :=
  .start (.scripted [⟨some line, .saying (.list [])⟩, ⟨some line, .dropped⟩])

theorem isAddressed_answeringOnce (line : String) : (answeringOnce line).server.IsAddressed := by
  rintro p hp
  rcases List.mem_pair.mp hp with rfl | rfl <;> exact Option.some_ne_none _

/-- Of two kinds that are listed with one request, the first takes the answer that either gets
alone. -/
theorem run_summary_of_shared {i j : VersionedKind} {r : Request} (hi : IsListing c ctx i r)
    (hj : IsListing c ctx j r) :
    ((summary c ctx [.versioned i, .versioned j]).run (answeringOnce r.line)).1 =
        [(.versioned i, .ok []), (.versioned j, .error (.api .transport))] ∧
      alone c ctx (answeringOnce r.line) i = .ok [] ∧
      alone c ctx (answeringOnce r.line) j = .ok [] := by
  have hsend : ((answeringOnce r.line).send r).1 = .saying (.list []) := by
    rw [answeringOnce, Session.send_of_scripted rfl, takeAnswer_cons_self]
  have hfirst := alone_of_nil hi hsend
  refine ⟨?_, hfirst, alone_of_nil hj hsend⟩
  obtain ⟨t, hrun, hagrees⟩ := exists_run_list hi (answeringOnce r.line)
  have hserver : t.server = .scripted [⟨some r.line, .dropped⟩] := by
    rw [hagrees.server, answeringOnce, Session.send_of_scripted rfl, takeAnswer_cons_self]
  have hdropped : (t.send r).1 = .dropped := by
    rw [Session.send_of_scripted hserver, takeAnswer_cons_self]
  have hsecond : alone c ctx t j = .error (.api .transport) := by
    rw [alone_of_isListing hj, hdropped]
    rfl
  have hsummary : ((summary c ctx [.versioned i, .versioned j]).run (answeringOnce r.line)).1 =
      [(.versioned i, alone c ctx (answeringOnce r.line) i),
        (.versioned j, alone c ctx ((list c ctx i.key).run.run (answeringOnce r.line)).2 j)] := rfl
  rw [hsummary, hfirst, hrun, hsecond]

end Order

/-! ## All listings together -/

/-- The listings of the kinds, each of which has its process. -/
def together (s : Session) (kinds : List VersionedKind)
    (p : VersionedKind → Process (Except Problem (List Json))) :
    Team VersionedKind (Except Problem (List Json)) :=
  ⟨s, kinds.map fun k => (k, p k)⟩

section Together

variable {c ctx} {kinds : List VersionedKind} {s : Session} {plan : List Planned}
  {p : VersionedKind → Process (Except Problem (List Json))}

/-- One of the listings may run to its end before the others go on. -/
theorem reaches_together (hkinds : kinds.Nodup) {k : VersionedKind} (hk : k ∈ kinds) :
    (together s kinds p).Reaches
      (together ((p k).run s).2 kinds (Function.update p k (.done ((p k).run s).1))) := by
  obtain ⟨front, back, rfl⟩ := List.append_of_mem hk
  obtain ⟨hnot, -⟩ := List.nodup_cons.mp (List.nodup_middle.mp hkinds)
  have hkept {j : VersionedKind} (hj : j ∈ front ++ back) :
      Function.update p k (.done ((p k).run s).1) j = p j := by
    apply Function.update_of_ne
    rintro rfl
    exact hnot hj
  have hreaches := Team.reaches_run (front.map fun j => (j, p j)) (back.map fun j => (j, p j)) k
    (p k) s
  have hfront : front.map (fun j => (j, Function.update p k (.done ((p k).run s).1) j)) =
      front.map fun j => (j, p j) :=
    List.map_congr_left fun j hj => by rw [hkept (List.mem_append_left _ hj)]
  have hback : back.map (fun j => (j, Function.update p k (.done ((p k).run s).1) j)) =
      back.map fun j => (j, p j) :=
    List.map_congr_left fun j hj => by rw [hkept (List.mem_append_right _ hj)]
  rw [together, together, List.map_append, List.map_append, List.map_cons, List.map_cons, hfront,
    hback, Function.update_self]
  exact hreaches

/-- The requests can arrive in the order of any list of the kinds. -/
theorem exists_reaches_of_order (hkinds : kinds.Nodup) {order : List VersionedKind}
    (horder : order.Nodup) (hmem : order ⊆ kinds)
    (hp : ∀ k ∈ order, (p k).Does (list c ctx k.key).run) (hserver : s.server = .scripted plan) :
    ∃ t q, (together s kinds p).Reaches (together t kinds q) ∧
      t.requests = s.requests ++ order.filterMap (fun k =>
        c.requestOf? (listItems k ctx.versionRef)) ∧
      (∀ k ∈ order, ∃ result, q k = .done result) ∧ ∀ k, k ∉ order → q k = p k := by
  induction order generalizing s p plan with
  | nil => exact ⟨s, p, .refl, (List.append_nil _).symm, nofun, fun _ _ => rfl⟩
  | cons k order ih =>
    obtain ⟨hk, horder⟩ := List.nodup_cons.mp horder
    obtain ⟨hkmem, hmem⟩ := List.cons_subset.mp hmem
    obtain ⟨hpk, hp⟩ := List.forall_mem_cons.mp hp
    let next := Function.update p k (.done ((p k).run s).1)
    have hkept {j : VersionedKind} (hj : j ≠ k) : next j = p j := Function.update_of_ne hj _ _
    have hnext : ∀ j ∈ order, (next j).Does (list c ctx j.key).run := by
      intro j hj
      have hne : j ≠ k := fun h => hk (h ▸ hj)
      rw [hkept hne]
      exact hp j hj
    obtain ⟨hrequests, rest, hrest⟩ := run_list_of_scripted c ctx k hserver
    rw [← hpk] at hrequests hrest
    obtain ⟨t, q, hreaches, hsent, hdone, hothers⟩ := ih horder hmem hnext hrest
    refine ⟨t, q, (reaches_together hkinds hkmem).trans hreaches, ?_, ?_, ?_⟩
    · rw [hsent, hrequests, List.append_assoc, List.filterMap_cons]
      cases c.requestOf? (listItems k ctx.versionRef) <;> rfl
    · refine List.forall_mem_cons.mpr ⟨⟨((p k).run s).1, ?_⟩, hdone⟩
      rw [hothers k hk]
      exact Function.update_self ..
    · intro j hj
      rw [List.mem_cons, not_or] at hj
      rw [hothers j hj.2, hkept hj.1]

theorem isIsolated_together (hp : ∀ k, (p k).Does (list c ctx k.key).run)
    (hs : s.server.IsAddressed) :
    (together s kinds p).IsIsolated (IsListing c ctx) (alone c ctx s) kinds := by
  constructor
  · exact (List.map_map ..).trans (List.map_id kinds)
  · exact hs
  · intro m hm
    obtain ⟨k, -, rfl⟩ := List.mem_map.mp hm
    exact asksOnly_of_does c ctx (hp k)
  · intro m hm
    obtain ⟨k, -, rfl⟩ := List.mem_map.mp hm
    exact congrArg Prod.fst (hp k s)

end Together

/-- What becomes of the listings of several kinds that are carried out together. -/
structure IsTimeless (s : Session) (kinds : List VersionedKind)
    (p : VersionedKind → Process (Except Problem (List Json))) : Prop where
  /-- No run goes on for ever. -/
  ends : Acc (fun t' t => Team.Step t t') (together s kinds p)
  /-- At the end of every run there is one entry for each kind, in the order of the kinds, and it is
  what the kind comes to alone. -/
  entries : ∀ t, (together s kinds p).Reaches t → t.IsOver →
    t.members = kinds.map fun k => (k, .done (alone c ctx s k))
  /-- The requests can arrive in any order. -/
  orders : ∀ plan, s.server = .scripted plan → ∀ order : List VersionedKind, order.Perm kinds →
    ∃ t, (together s kinds p).Reaches t ∧ t.IsOver ∧ t.session.requests =
      s.requests ++ order.filterMap fun k => c.requestOf? (listItems k ctx.versionRef)

variable {s : Session} {kinds : List VersionedKind}

theorem isTimeless_of_does {key e : String} {agent : Agent} (hc : Client.of? key e agent = .ok c)
    (hhash : '#' ∉ e.toList) (hkinds : kinds.Nodup) (hs : s.server.IsAddressed)
    {p : VersionedKind → Process (Except Problem (List Json))}
    (hp : ∀ k, (p k).Does (list c ctx k.key).run) : IsTimeless c ctx s kinds p where
  ends := Team.wellFounded_step.apply _
  entries t hreaches hover := by
    have hapart : ∀ i j, i ≠ j → ∀ r r', IsListing c ctx i r → IsListing c ctx j r' →
        r.line ≠ r'.line := fun i j hne r r' => line_ne_of_isListing ctx hc hhash hne r r'
    exact ((isIsolated_together hp hs).reaches hkinds hapart hreaches).members_of_isOver hover
  orders plan hserver order horder := by
    obtain ⟨t, q, hreaches, hrequests, hdone, -⟩ := exists_reaches_of_order hkinds
      (horder.nodup_iff.mpr hkinds) horder.subset (fun k _ => hp k) hserver
    refine ⟨_, hreaches, Team.isOver_of_done ?_, hrequests⟩
    intro m hm
    obtain ⟨k, hk, rfl⟩ := List.mem_map.mp hm
    exact hdone k (horder.symm.subset hk)

/-- A summary of different kinds depends on no timing, if every answer is meant for one request
line and the endpoint has no fragment: listed in steps that alternate in any way, or one after the
other, each kind comes to what it comes to alone. And that depends on the answers to its own request
only, so that nothing that is answered to the others changes it. Behind a fragment, where the paths
of all kinds end up, any two kinds that can be asked for at all take each other's answers. -/
theorem summary_isolates {key e : String} {agent : Agent} (hc : Client.of? key e agent = .ok c) :
    (∀ k : VersionedKind, IsStepwise (list c ctx k.key).run) ∧
    ('#' ∉ e.toList → ∀ (kinds : List VersionedKind) (s : Session),
      kinds.Nodup → s.server.IsAddressed →
        (∀ p : VersionedKind → Process (Except Problem (List Json)),
          (∀ k, (p k).Does (list c ctx k.key).run) → IsTimeless c ctx s kinds p) ∧
        ((summary c ctx (kinds.map .versioned)).run s).1 =
          kinds.map (fun k => (.versioned k, alone c ctx s k)) ∧
        ∀ (k : VersionedKind) (t : Session), t.server.IsAddressed →
          (∀ r, c.requestOf? (listItems k ctx.versionRef) = some r →
            s.server.ready? r.line = t.server.ready? r.line) →
          alone c ctx s k = alone c ctx t k) ∧
    ('#' ∈ e.toList → ∀ (i j : VersionedKind) (r : Request),
      c.requestOf? (listItems i ctx.versionRef) = some r →
        ∃ s : Session, s.server.IsAddressed ∧
          ((summary c ctx [.versioned i, .versioned j]).run s).1 =
            [(.versioned i, .ok []), (.versioned j, .error (.api .transport))] ∧
          alone c ctx s i = .ok [] ∧ alone c ctx s j = .ok []) := by
  refine ⟨isStepwise_list c ctx, ?_, ?_⟩
  · intro hhash kinds s hkinds hs
    refine ⟨?_, run_summary_eq hc hhash hkinds hs, ?_⟩
    · intro p hp
      exact isTimeless_of_does c ctx hc hhash hkinds hs hp
    · intro k t ht h
      exact alone_congr hs ht h
  · intro hhash i j r hr
    have hother : IsListing c ctx j r := isListing_of_fragment ctx hc hhash hr j
    exact ⟨answeringOnce r.line, isAddressed_answeringOnce _, run_summary_of_shared hr hother⟩

/-- The case of two kinds, the second of which is answered first, while the connection of the first
closes. -/
theorem summary_isolates_dropped :
    let ctx : Context := { service? := some "abc", version? := some 2 }
    let s : Session := .start (.scripted
      [⟨some "GET /service/abc/version/2/backend", .saying (.list [])⟩,
        ⟨some "GET /service/abc/version/2/domain", .dropped⟩])
    ∃ c p t, Client.of? "key" "http://[::1]:8080" = .ok c ∧
      (∀ k, (p k).Does (list c ctx k.key).run) ∧
      (together s [.domain, .backend] p).Reaches t ∧
      t.session.requests.map Request.line =
        ["GET /service/abc/version/2/backend", "GET /service/abc/version/2/domain"] ∧
      t.members = [(.domain, .done (.error (.api .transport))), (.backend, .done (.ok []))] := by
  intro ctx s
  obtain ⟨c, hc⟩ := exists_client_loopback
  have hs : s.server.IsAddressed := by
    rintro p hp
    rcases List.mem_pair.mp hp with rfl | rfl <;> exact Option.some_ne_none _
  have hisolates := summary_isolates c ctx hc
  choose p hp using hisolates.1
  have htimeless := (hisolates.2.1 (by decide) [.domain, .backend] s (by decide) hs).1 p hp
  obtain ⟨t, hreaches, hover, hrequests⟩ :=
    htimeless.orders _ rfl [.backend, .domain] (.swap ..)
  have hlisting (k : VersionedKind) : ∃ r, IsListing c ctx k r ∧ r.line =
      "GET" ++ " " ++ (ResourceInvocation.list k ⟨"abc", 2⟩).demand.address.target :=
    exists_requestOf?_loopback hc (i := .resource (.list k ⟨"abc", 2⟩)) rfl
  obtain ⟨backends, hbackends, hline⟩ := hlisting .backend
  obtain ⟨domains, hdomains, hline'⟩ := hlisting .domain
  have htarget : (ResourceInvocation.list .backend ⟨"abc", 2⟩).demand.address.target =
      "/service/abc/version/2/backend" := by decide
  have htarget' : (ResourceInvocation.list .domain ⟨"abc", 2⟩).demand.address.target =
      "/service/abc/version/2/domain" := by decide
  rw [htarget] at hline
  rw [htarget'] at hline'
  unfold IsListing at hbackends hdomains
  refine ⟨c, p, t, hc, hp, hreaches, ?_, ?_⟩
  · have hsent : t.session.requests = [backends, domains] := by
      rw [hrequests]
      simp only [List.filterMap_cons, hbackends, hdomains, List.filterMap_nil]
      rfl
    rw [hsent, List.map_cons, List.map_cons, List.map_nil, hline, hline']
    rfl
  · have hdropped : (s.send domains).1 = .dropped := by
      rw [Session.send_of_scripted rfl, hline']
      exact (by decide : (takeAnswer "GET /service/abc/version/2/domain"
        [⟨some "GET /service/abc/version/2/backend", .saying (.list [])⟩,
          ⟨some "GET /service/abc/version/2/domain", .dropped⟩]).1 = .dropped)
    have hempty : (s.send backends).1 = .saying (.list []) := by
      rw [Session.send_of_scripted rfl, hline]
      exact (by decide : (takeAnswer "GET /service/abc/version/2/backend"
        [⟨some "GET /service/abc/version/2/backend", .saying (.list [])⟩,
          ⟨some "GET /service/abc/version/2/domain", .dropped⟩]).1 = .saying (.list []))
    rw [htimeless.entries t hreaches hover, List.map_cons, List.map_cons, List.map_nil,
      alone_of_isListing hdomains, hdropped, alone_of_nil hbackends hempty]
    rfl

/-- Behind an endpoint with a fragment the kind that is listed second loses its answer to the first. -/
theorem summary_of_fragment :
    let ctx : Context := { service? := some "abc", version? := some 2 }
    let s : Session := .start (.scripted
      [⟨some "GET /", .saying (.list [])⟩, ⟨some "GET /", .dropped⟩])
    ∃ c, Client.of? "key" "http://[::1]#" = .ok c ∧ s.server.IsAddressed ∧
      ((summary c ctx ([VersionedKind.domain, .backend].map .versioned)).run s).1 =
        [(.versioned .domain, .ok []), (.versioned .backend, .error (.api .transport))] ∧
      alone c ctx s .domain = .ok [] ∧ alone c ctx s .backend = .ok [] := by
  intro ctx s
  have hu : Web.Url.ofText "http://[::1]#" =
      .ok ⟨"http".toList, some (.address6 [0, 0, 0, 0, 0, 0, 0, 1]), none, .segments [[]], none⟩ :=
    rfl
  have hc := Client.of?_eq_ok "key" .console rfl hu rfl
  generalize hclient : Client.mk _ _ _ = c at hc
  have hurl : c.url (ctx.versionRef.path .domain) = "http://[::1]#/service/abc/version/2/domain" := by
    subst hclient
    decide
  have htext : Web.Url.ofText "http://[::1]#/service/abc/version/2/domain" =
      .ok ⟨"http".toList, some (.address6 [0, 0, 0, 0, 0, 0, 0, 1]), none, .segments [[]], none⟩ :=
    rfl
  have hdomains : IsListing c ctx .domain ⟨.get, "/", none, c.key, c.agent⟩ := by
    refine (isListing_iff c ctx).mpr ⟨rfl, ?_⟩
    rw [Client.request?, hurl, htext]
    rfl
  have hbackends := isListing_of_fragment ctx hc (by decide) hdomains .backend
  have hshared := run_summary_of_shared hdomains hbackends
  have hline : Request.line ⟨.get, "/", none, c.key, c.agent⟩ = "GET /" :=
    (by decide : Method.get.text ++ " " ++ "/" = "GET /")
  rw [hline] at hshared
  exact ⟨c, hc, isAddressed_answeringOnce "GET /", hshared⟩

end EdgeConsole.Console
