import EdgeConsole.Console.Run
import EdgeConsole.Proofs.Api.Classification
import EdgeConsole.Proofs.Api.Order
import EdgeConsole.Proofs.Console.Dispatch
import EdgeConsole.Proofs.Json.Reading

/-!
# The version that a command works on

A command on a kind that belongs to a version works on the version whose number is given. If none is
given, the versions of the service are listed first, and the answer decides: the command works on
the active version with the smallest number, or, when no version is active, on the version with the
greatest number (`IsPreferred`), which is also the one that counts as the latest. Everything that
the command sends afterwards is asked of that version (`VersionedQuery.invocations`), and without
versions nothing is sent at all.

`Invocation.run_chooses` says so for a whole run of the console.
-/

namespace EdgeConsole.Api

open Resource (Version)

/-! ## What a call sends -/

variable (c : Client)

/-- The request of an operation, if it lacks nothing and its address can be asked. -/
def Client.requestOf? {α : Type} : Prepared α → Option Request
  | .ok o => c.request? o.method o.path o.form?
  | .error _ => none

/-- A call sends the request of its operation, and nothing else. -/
theorem Client.run_of_scripted {α : Type} (p : Prepared α) {s : Session} {plan : List Planned}
    (h : s.server = .scripted plan) :
    ((c.run p).run.run s).2.requests = s.requests ++ (c.requestOf? p).toList ∧
      ∃ rest, ((c.run p).run.run s).2.server = .scripted rest := by
  cases p with
  | error m => exact ⟨(List.append_nil _).symm, plan, h⟩
  | ok o =>
    cases hr : c.request? o.method o.path o.form? with
    | none =>
      obtain ⟨t, hrun, ht⟩ := c.run_perform_of_none (s := s) o hr
      rw [run, hrun, requestOf?, hr]
      exact ⟨ht.requests.trans (List.append_nil _).symm, plan, ht.server.trans h⟩
    | some r =>
      obtain ⟨t, hrun, ht⟩ := c.run_perform_of_some (s := s) o hr
      rw [Session.send_of_scripted h] at ht
      rw [run, hrun, requestOf?, hr]
      exact ⟨ht.requests, _, ht.server⟩

/-- A client for a server can ask for whatever lacks nothing. -/
theorem Client.requestOf?_prepared {c : Client} {key e : String} {agent : Agent} {u : Web.Url}
    (hc : Client.of? key e agent = .ok c) (hs : IsServer e u) {i : Invocation}
    {o : Operation i.Result} (ho : i.prepared = .ok o) :
    c.requestOf? i.prepared = some (c.sends o) := by
  have hmeets := Invocation.meets_of_prepared ho
  rw [ho, requestOf?, hmeets.path, hmeets.method]
  exact request?_of_isServer hc hs i.isRooted_address _ _

theorem exists_requestOf?_loopback {c : Client}
    (hc : Client.of? "key" "http://[::1]:8080" = .ok c) {i : Invocation} {o : Operation i.Result}
    (ho : i.prepared = .ok o) :
    ∃ r, c.requestOf? i.prepared = some r ∧
      r.line = i.demand.method.text ++ " " ++ i.demand.address.target :=
  ⟨_, Client.requestOf?_prepared hc isServer_loopback ho, rfl⟩

/-! ## Version zero -/

theorem VersionRef.check_of_zero {r : VersionRef} (hservice : r.service ≠ "")
    (hzero : r.version = 0) : r.check = .error .version := by
  have hempty : r.service.isEmpty = false := by simpa using hservice
  rw [VersionRef.check, requireService, hempty, hzero]
  rfl

/-- The version is missed before the name. -/
theorem NameRef.check_of_zero {r : NameRef} (hservice : r.service ≠ "") (hzero : r.version = 0) :
    r.check = .error .version := by
  rw [NameRef.check, VersionRef.check_of_zero hservice hzero]
  rfl

end EdgeConsole.Api

namespace EdgeConsole.Console

open Access (Environment)
open Api
open Catalog (Kind versionedKinds)
open Resource (Version VersionedKind)
open Settings (Config Disk)

/-! ## Queries on a version -/

/-- A query that works on one version of the service. -/
inductive VersionedQuery
  | list (k : VersionedKind)
  | get (k : VersionedKind) (name : String)
  | delete (k : VersionedKind) (name : String)
  | summary

namespace VersionedQuery

/-- The query on a command line. Only a summary can be told the number of the version with it. -/
def query (number? : Option UInt32) : VersionedQuery → Query
  | list k => .list k.key
  | get k name => .get k.key name
  | delete k name => .delete k.key name
  | summary => .summary number?

/-- The operations on a version that the query comes to, in order. -/
def invocations (r : VersionRef) : VersionedQuery → List ResourceInvocation
  | list k => [.list k r]
  | get k name => [.get k (r.named name)]
  | delete k name => [.delete k (r.named name)]
  | summary => VersionedKind.all.map (.list · r)

/-- The requests of the query on a version. -/
def requests (c : Client) (r : VersionRef) (q : VersionedQuery) : List Request :=
  (q.invocations r).filterMap fun i => c.requestOf? i.prepared

end VersionedQuery

/-! ## The choice -/

/-- The number is that of the version to work on: the least number of an active version, or the
greatest of all when none is active. -/
def IsPreferred (versions : List Version) (number : UInt32) : Prop :=
  if ∃ v ∈ versions, v.active = true then
    (∃ v ∈ versions, v.active = true ∧ v.number = number) ∧
      ∀ v ∈ versions, v.active = true → number ≤ v.number
  else (∃ v ∈ versions, v.number = number) ∧ ∀ v ∈ versions, v.number ≤ number

theorem preferred?_sortedOn_nil : preferred? (sortedOn Version.number []) = none := by
  simp [preferred?, sortedOn]

/-- Among versions there is one to work on. -/
theorem exists_preferred? {versions : List Version} (h : versions ≠ []) :
    ∃ v, preferred? (sortedOn Version.number versions) = some v ∧ IsPreferred versions v.number := by
  have hsorted := sortedOn_pairwise Version.number versions
  unfold preferred? IsPreferred
  cases hfirst : (sortedOn Version.number versions).find? Version.active with
  | some v =>
    have hmem : v ∈ versions := mem_sortedOn.mp (List.mem_of_find?_eq_some hfirst)
    have hactive : v.active = true := List.find?_some hfirst
    refine ⟨v, rfl, ?_⟩
    rw [if_pos ⟨v, hmem, hactive⟩]
    refine ⟨⟨v, hmem, hactive, rfl⟩, ?_⟩
    intro w hw hwactive
    exact le_of_find? hsorted hfirst w (mem_sortedOn.mpr hw) hwactive
  | none =>
    have hnone : ¬∃ v ∈ versions, v.active = true := by
      rintro ⟨v, hmem, hactive⟩
      exact List.find?_eq_none.mp hfirst v (mem_sortedOn.mpr hmem) hactive
    have hne := sortedOn_ne_nil Version.number h
    have hlast := List.getLast?_eq_some_getLast hne
    refine ⟨_, hlast, ?_⟩
    rw [if_neg hnone]
    refine ⟨⟨_, mem_sortedOn.mp (List.getLast_mem hne), rfl⟩, ?_⟩
    intro w hw
    exact le_of_getLast? hsorted hlast w (mem_sortedOn.mpr hw)

/-! ## Finding the version -/

section Find

variable (c : Client) (ctx : Context) (key : String) (s : Session)

/-- A version that is given is not looked for. -/
theorem run_withVersion_of_given (h : ctx.version?.isSome = true) :
    (withVersion c ctx key).run.run s = (.ok ctx, s) := by
  unfold withVersion
  split
  · rw [h, Bool.true_or, if_pos rfl]
    rfl
  · rfl

/-- A kind that belongs to no version needs none. -/
theorem run_withVersion_of_unversioned (h : ∀ k, Kind.ofKey? key ≠ some (.versioned k)) :
    (withVersion c ctx key).run.run s = (.ok ctx, s) := by
  unfold withVersion
  split
  · next k hk => exact absurd hk (h k)
  · rfl

/-- Otherwise the versions of the service are listed, and one of them is chosen. -/
theorem run_withVersion_of_none {k : VersionedKind} (h : ctx.version? = none)
    (hservice : ctx.service ≠ "") :
    (withVersion c ctx k.key).run.run s =
      match (c.run (listVersions ctx.service)).run.run s with
      | (.error e, t) => (.error (.api e), t)
      | (.ok versions, t) =>
        match preferred? versions with
        | none => (.error (.noVersions ctx.service), t)
        | some v =>
          (.ok { ctx with version? := some v.number },
            t.note .debug
              ("Resolved version " ++ toString v.number.toNat ++ " for " ++ ctx.service)) := by
  have hkey : Kind.ofKey? k.key = some (.versioned k) := ofKey?_key (.versioned k)
  have hempty : ctx.service.isEmpty = false := by simpa using hservice
  unfold withVersion
  rw [hkey]
  dsimp only
  rw [h, hempty, Option.isSome_none, Bool.or_false, if_neg (by decide), Errand.run_bind,
    Errand.run_ask]
  generalize (c.run (listVersions ctx.service)).run.run s = run
  obtain ⟨e | versions, t⟩ := run
  · rfl
  · dsimp only [carried, id]
    cases preferred? versions <;> rfl

end Find

/-! ## What a query does on a version -/

namespace VersionedQuery

/-- The key of the kind by which it is decided whether the query needs a version. -/
def key : VersionedQuery → String
  | list k => k.key
  | get k _ => k.key
  | delete k _ => k.key
  | summary => VersionedKind.key .backend

/-- The identifiers that the query is given. -/
def given (number? : Option UInt32) (ctx : Context) : VersionedQuery → Context
  | list _ => ctx
  | get _ _ => ctx
  | delete _ _ => ctx
  | summary => { ctx with version? := number? <|> ctx.version? }

/-- What is left to do once the version is known. -/
def rest (c : Client) (ctx : Context) (format : View.Format) : VersionedQuery → Errand String
  | list k => do return shown format k.key (.list (← Console.list c ctx k.key))
  | get k name => do return shown format k.key (← Console.get c ctx k.key name)
  | delete k name => do
    Console.delete c ctx k.key name
    return deletionReport k.key name
  | summary => do
    let results ← (Console.summary c ctx versionedKinds : StateM Session _)
    return String.join (results.map fun (kind, result) => summarySection format kind result)

theorem report_query (c : Client) (ctx : Context) (format : View.Format) (number? : Option UInt32)
    (q : VersionedQuery) :
    report c ctx format (q.query number?) =
      withVersion c (q.given number? ctx) q.key >>= fun ctx => q.rest c ctx format := by
  cases q <;> rfl

end VersionedQuery

namespace VersionedQuery

variable (c : Client) (r : VersionRef) (k : VersionedKind) (name : String)

theorem filterMap_singleton (i : ResourceInvocation) :
    [i].filterMap (fun i => c.requestOf? i.prepared) = (c.requestOf? i.prepared).toList := by
  rw [List.filterMap_cons]
  cases c.requestOf? i.prepared <;> rfl

theorem requests_list : requests c r (list k) = (c.requestOf? (listItems k r)).toList :=
  filterMap_singleton c (.list k r)

theorem requests_get :
    requests c r (get k name) = (c.requestOf? (getItem k (r.named name))).toList :=
  filterMap_singleton c (.get k (r.named name))

theorem requests_delete :
    requests c r (delete k name) = (c.requestOf? (deleteItem k (r.named name))).toList :=
  filterMap_singleton c (.delete k (r.named name))

theorem requests_summary : requests c r summary =
    VersionedKind.all.filterMap fun k => c.requestOf? (listItems k r) := by
  rw [requests, invocations, List.filterMap_map]
  rfl

end VersionedQuery

section Requests

variable (c : Client) (ctx : Context) {s : Session} {plan : List Planned}

theorem run_list_of_scripted (k : VersionedKind) (h : s.server = .scripted plan) :
    ((list c ctx k.key).run.run s).2.requests =
        s.requests ++ (c.requestOf? (listItems k ctx.versionRef)).toList ∧
      ∃ rest, ((list c ctx k.key).run.run s).2.server = .scripted rest := by
  rw [run_list_versioned, snd_carried]
  exact c.run_of_scripted _ (s := s.note ..) h

theorem run_get_of_scripted (k : VersionedKind) (name : String) (h : s.server = .scripted plan) :
    ((get c ctx k.key name).run.run s).2.requests =
      s.requests ++ (c.requestOf? (getItem k (ctx.versionRef.named name))).toList := by
  rw [run_get_versioned, snd_carried]
  exact (c.run_of_scripted (getItem k (ctx.versionRef.named name)) (s := s.note ..) h).1

theorem run_delete_of_scripted (k : VersionedKind) (name : String)
    (h : s.server = .scripted plan) :
    ((delete c ctx k.key name).run.run s).2.requests =
      s.requests ++ (c.requestOf? (deleteItem k (ctx.versionRef.named name))).toList := by
  rw [run_delete_versioned, snd_carried]
  exact (c.run_of_scripted (deleteItem k (ctx.versionRef.named name)) (s := s.note ..) h).1

/-- A summary sends the requests of its listings one after the other. -/
theorem run_summary_of_scripted (kinds : List VersionedKind) (h : s.server = .scripted plan) :
    ((summary c ctx (kinds.map .versioned)).run s).2.requests =
      s.requests ++ kinds.filterMap fun k => c.requestOf? (listItems k ctx.versionRef) := by
  induction kinds generalizing s plan with
  | nil => exact (List.append_nil _).symm
  | cons k kinds ih =>
    obtain ⟨hrequests, rest, hserver⟩ := run_list_of_scripted c ctx k h
    have hsummary : ((summary c ctx ((k :: kinds).map .versioned)).run s).2 =
        ((summary c ctx (kinds.map .versioned)).run ((list c ctx k.key).run.run s).2).2 := rfl
    rw [hsummary, ih hserver, hrequests, List.append_assoc]
    congr 1
    rw [List.filterMap_cons]
    cases c.requestOf? (listItems k ctx.versionRef) <;> rfl

/-- Once the version is known a query sends its requests on that version and nothing else. -/
theorem VersionedQuery.requests_rest (format : View.Format) (q : VersionedQuery)
    (h : s.server = .scripted plan) :
    ((q.rest c ctx format).run.run s).2.requests = s.requests ++ q.requests c ctx.versionRef := by
  cases q with
  | list k =>
    rw [rest, Errand.run_map s (Console.list c ctx k.key)
      fun items => shown format k.key (.list items), (run_list_of_scripted c ctx k h).1,
      requests_list]
  | get k name =>
    rw [rest, Errand.run_map s (Console.get c ctx k.key name) (shown format k.key),
      run_get_of_scripted c ctx k name h, requests_get]
  | delete k name =>
    rw [rest, Errand.run_map s (Console.delete c ctx k.key name)
      fun _ => deletionReport k.key name, run_delete_of_scripted c ctx k name h, requests_delete]
  | summary =>
    have hkinds : versionedKinds = VersionedKind.all.map .versioned := rfl
    have hsummary := run_summary_of_scripted c ctx VersionedKind.all h
    rw [← hkinds] at hsummary
    rw [rest, Errand.run_state_bind, requests_summary]
    generalize (Console.summary c ctx versionedKinds).run s = run at hsummary ⊢
    exact hsummary

end Requests

/-! ## No version -/

/-- What the console prints for a query on a version that has no number. -/
def VersionedQuery.missing (format : View.Format) : VersionedQuery → Outcome
  | list _ => .failure (Failure.missing .version).explanation
  | get _ _ => .failure (Failure.missing .version).explanation
  | delete _ _ => .failure (Failure.missing .version).explanation
  | summary => .success <| String.join <|
      versionedKinds.map (summarySection format · (.error (.api (.missing .version))))

/-- What the console prints for the result of a query. -/
def outcomeOf : Except Problem String → Outcome
  | .ok out => .success out
  | .error p => .failure p.explanation

section Zero

variable (c : Client) (ctx : Context)

theorem requests_of_zero {r : VersionRef} (hservice : r.service ≠ "") (hzero : r.version = 0)
    (q : VersionedQuery) : q.requests c r = [] := by
  have hcheck := VersionRef.check_of_zero hservice hzero
  have hlist (k : VersionedKind) : listItems k r = .error .version := by
    rw [listItems, hcheck]
    rfl
  cases q with
  | list k =>
    rw [VersionedQuery.requests_list, hlist]
    rfl
  | get k name =>
    rw [VersionedQuery.requests_get, getItem, NameRef.check_of_zero hservice hzero]
    rfl
  | delete k name =>
    rw [VersionedQuery.requests_delete, deleteItem, NameRef.check_of_zero hservice hzero]
    rfl
  | summary =>
    rw [VersionedQuery.requests_summary, List.filterMap_eq_nil_iff]
    intro k _
    rw [hlist]
    rfl

variable (hservice : ctx.service ≠ "") (hzero : ctx.versionRef.version = 0)

include hservice hzero

theorem run_list_of_zero (k : VersionedKind) (s : Session) :
    ((list c ctx k.key).run.run s).1 = .error (.api (.missing .version)) := by
  have hmissing : listItems k ctx.versionRef = .error .version := by
    rw [listItems, VersionRef.check_of_zero hservice hzero]
    rfl
  rw [run_list_versioned, hmissing]
  rfl

theorem run_summary_of_zero (kinds : List VersionedKind) (s : Session) :
    ((summary c ctx (kinds.map .versioned)).run s).1 =
      kinds.map fun k => (.versioned k, .error (.api (.missing .version))) := by
  induction kinds generalizing s with
  | nil => rfl
  | cons k kinds ih =>
    have hsummary : ((summary c ctx ((k :: kinds).map .versioned)).run s).1 =
        (.versioned k, ((list c ctx k.key).run.run s).1) ::
          ((summary c ctx (kinds.map .versioned)).run ((list c ctx k.key).run.run s).2).1 := rfl
    rw [hsummary, run_list_of_zero c ctx hservice hzero, ih, List.map_cons]

/-- A query on a version that has no number reports that. -/
theorem outcomeOf_rest_of_zero (format : View.Format) (q : VersionedQuery) (s : Session) :
    outcomeOf ((q.rest c ctx format).run.run s).1 = q.missing format := by
  cases q with
  | list k =>
    rw [VersionedQuery.rest, Errand.run_map s (list c ctx k.key)
      fun items => shown format k.key (.list items), run_list_of_zero c ctx hservice hzero]
    rfl
  | get k name =>
    rw [VersionedQuery.rest, Errand.run_map s (get c ctx k.key name) (shown format k.key),
      run_get_versioned, getItem, NameRef.check_of_zero hservice hzero]
    rfl
  | delete k name =>
    rw [VersionedQuery.rest, Errand.run_map s (delete c ctx k.key name)
      fun _ => deletionReport k.key name, run_delete_versioned, deleteItem,
      NameRef.check_of_zero hservice hzero]
    rfl
  | summary =>
    have hkinds : versionedKinds = VersionedKind.all.map .versioned := rfl
    have hsummary := run_summary_of_zero c ctx hservice hzero VersionedKind.all s
    rw [← hkinds] at hsummary
    rw [VersionedQuery.rest, Errand.run_state_bind]
    generalize (summary c ctx versionedKinds).run s = run at hsummary ⊢
    have hout : outcomeOf ((pure (String.join (run.1.map fun (kind, result) =>
        summarySection format kind result)) : Errand String).run.run run.2).1 =
        .success (String.join (run.1.map fun (kind, result) => summarySection format kind result)) :=
      rfl
    refine hout.trans ?_
    rw [hsummary, VersionedQuery.missing, hkinds, List.map_map, List.map_map]
    rfl

end Zero

/-! ## Runs of the console -/

/-- The answer to a request for the versions of a service lists these. -/
def Answers (a : Answer) (versions : List Version) : Prop :=
  ∃ status bytes, a = .reply status bytes ∧ status.isSuccess = true ∧
    Json.readText (·.readList Json.depthLimit Resource.versionSchema.read)
      (bodyOrNull (bodyText status bytes)) = .ok versions

theorem answers_saying {vs : List Json} {versions : List Version} (h : (Json.list vs).IsExact)
    (hread : (Json.Outline.ofJson (.list vs)).readList Json.depthLimit
      Resource.versionSchema.read = .ok versions) : Answers (.saying (.list vs)) versions := by
  refine ⟨_, _, rfl, rfl, ?_⟩
  rw [bodyText_saying, bodyOrNull_list, Json.readText_compact _ h]
  exact hread

section Runs

variable (c : Client) {s : Session} {plan : List Planned} {service : String}

/-- The listing of versions that has a request is an operation, and what it reads in an answer are
the versions in the answer, by number. -/
theorem exists_listVersions {r : Request} (hr : c.requestOf? (listVersions service) = some r) :
    ∃ o, listVersions service = .ok o ∧ c.request? o.method o.path o.form? = some r ∧
      ∀ a versions, Answers a versions →
        a.judged.bind o.read = .ok (sortedOn Version.number versions) := by
  unfold listVersions at hr ⊢
  cases hcheck : requireService service with
  | error m =>
    rw [hcheck] at hr
    cases hr
  | ok _ =>
    rw [hcheck] at hr
    refine ⟨_, rfl, hr, ?_⟩
    rintro a versions ⟨status, bytes, rfl, hsuccess, hread⟩
    rw [Answer.judged, if_pos hsuccess, Operation.read_map, Operation.read_plain, readItems]
    change ((readBody _ (bodyText status bytes)).map (sortedOn Version.number)) = _
    rw [readBody, hread]
    rfl

/-- The versions that are answered are listed by number. -/
theorem run_listVersions_of_answers (hserver : s.server = .scripted plan) {r : Request}
    (hr : c.requestOf? (listVersions service) = some r) {versions : List Version}
    (hversions : Answers (takeAnswer r.line plan).1 versions) :
    ∃ t, (c.run (listVersions service)).run.run s = (.ok (sortedOn Version.number versions), t) ∧
      t.requests = s.requests ++ [r] ∧ ∃ rest, t.server = .scripted rest := by
  obtain ⟨o, ho, hrequest, hread⟩ := exists_listVersions c hr
  obtain ⟨t, hrun, ht⟩ := c.run_perform_of_some (s := s) o hrequest
  rw [Session.send_of_scripted hserver] at hrun ht
  refine ⟨t, ?_, ht.requests, _, ht.server⟩
  rw [ho, Client.run, hrun, hread _ _ hversions]

/-- What counts as the latest version is one with the greatest number. -/
theorem run_latestVersion_of_answers (hserver : s.server = .scripted plan) {r : Request}
    (hr : c.requestOf? (listVersions service) = some r) {versions : List Version}
    (hversions : Answers (takeAnswer r.line plan).1 versions) (hne : versions ≠ []) :
    ∃ v ∈ versions, ((c.run (latestVersion service)).run.run s).1 = .ok (some v) ∧
      ∀ w ∈ versions, w.number ≤ v.number := by
  obtain ⟨o, ho, hrequest, hread⟩ := exists_listVersions c hr
  obtain ⟨v, hv, hmem, hmax⟩ := exists_lastMax? Version.number
    (sortedOn_ne_nil Version.number hne)
  refine ⟨v, mem_sortedOn.mp hmem, ?_, fun w hw => hmax w (mem_sortedOn.mpr hw)⟩
  obtain ⟨t, hrun, -⟩ := c.run_perform_of_some (s := s)
    (o.map (lastMax? Version.number)) hrequest
  rw [Session.send_of_scripted hserver] at hrun
  have hprepared : latestVersion service = .ok (o.map (lastMax? Version.number)) := by
    rw [latestVersion, ho]
    rfl
  have hresult : (takeAnswer r.line plan).1.judged.bind (o.map (lastMax? Version.number)).read =
      ((takeAnswer r.line plan).1.judged.bind o.read).map (lastMax? Version.number) := by
    cases (takeAnswer r.line plan).1.judged <;> rfl
  rw [hprepared, Client.run, hrun, hresult, hread _ _ hversions]
  exact congrArg Except.ok hv

/-- A query prints its result and leaves the session as it found it after all it sent. -/
theorem runQuery_of_connect {config : Config} {env : Environment} {o : Options}
    (hc : connect config env o = .ok c) (q : Query) :
    runQuery config env o q s =
      (outcomeOf ((report c (contextOf config o) (o.output?.getD .table) q).run.run s).1,
        ((report c (contextOf config o) (o.output?.getD .table) q).run.run s).2) := by
  unfold runQuery
  rw [hc]
  dsimp only
  generalize (report c (contextOf config o) (o.output?.getD .table) q).run.run s = run
  obtain ⟨p | out, t⟩ := run <;> rfl

/-- The number that a query is given, with it or by an option. -/
def VersionedQuery.number? (number? : Option UInt32) (o : Options) : VersionedQuery → Option UInt32
  | list _ => o.number?
  | get _ _ => o.number?
  | delete _ _ => o.number?
  | summary => number? <|> o.number?

/-- What a run comes to whose query is given no number, when the service has these versions. -/
structure Chooses (c : Client) (service : String) (q : VersionedQuery) (format : View.Format)
    (s : Session) (r : Request) (versions : List Version) (outcome : Outcome) (t : Session) :
    Prop where
  /-- Without versions nothing more is sent. -/
  empty : versions = [] →
    outcome = .failure (Problem.noVersions service).explanation ∧ t.requests = s.requests ++ [r]
  /-- Otherwise all that is sent is asked of the preferred version. -/
  chosen : versions ≠ [] → ∃ number, IsPreferred versions number ∧
    t.requests = s.requests ++ r :: q.requests c ⟨service, number⟩ ∧
    (number = 0 → q.requests c ⟨service, number⟩ = [] ∧ outcome = q.missing format)
  /-- The greatest number is that of the latest version. -/
  latest : versions ≠ [] → ∃ v ∈ versions,
    ((c.run (latestVersion service)).run.run s).1 = .ok (some v) ∧
    (∀ w ∈ versions, w.number ≤ v.number) ∧
    ((∀ w ∈ versions, w.active = false) → IsPreferred versions v.number)

end Runs

namespace VersionedQuery

theorem exists_key (q : VersionedQuery) : ∃ k : VersionedKind, q.key = k.key := by
  cases q with
  | list k => exact ⟨k, rfl⟩
  | get k name => exact ⟨k, rfl⟩
  | delete k name => exact ⟨k, rfl⟩
  | summary => exact ⟨.backend, rfl⟩

theorem service_given (number? : Option UInt32) (ctx : Context) (q : VersionedQuery) :
    (q.given number? ctx).service = ctx.service := by
  cases q <;> rfl

theorem version?_given (number? : Option UInt32) (config : Config) (o : Options)
    (q : VersionedQuery) :
    (q.given number? (contextOf config o)).version? = q.number? number? o := by
  cases q <;> rfl

end VersionedQuery

section Reports

variable (c : Client) (ctx : Context) (format : View.Format) {s : Session} {plan : List Planned}
  (number? : Option UInt32) (q : VersionedQuery)

/-- A number that is given is used as it is. -/
theorem requests_report_of_given {number : UInt32}
    (hnumber : (q.given number? ctx).version? = some number) (hserver : s.server = .scripted plan) :
    ((report c ctx format (q.query number?)).run.run s).2.requests =
      s.requests ++ q.requests c ⟨ctx.service, number⟩ := by
  have hgiven := run_withVersion_of_given c (q.given number? ctx) q.key s (by rw [hnumber]; rfl)
  have href : (q.given number? ctx).versionRef = ⟨ctx.service, number⟩ := by
    rw [Context.versionRef, hnumber, q.service_given]
    rfl
  rw [q.report_query, Errand.run_bind, hgiven]
  dsimp only
  rw [q.requests_rest c _ format hserver, href]

/-- Without a number the versions decide. -/
theorem chooses_report_of_none (hnumber : (q.given number? ctx).version? = none)
    (hservice : ctx.service ≠ "") (hserver : s.server = .scripted plan) {r : Request}
    (hr : c.requestOf? (listVersions ctx.service) = some r) {versions : List Version}
    (hversions : Answers (takeAnswer r.line plan).1 versions) :
    Chooses c ctx.service q format s r versions
      (outcomeOf ((report c ctx format (q.query number?)).run.run s).1)
      ((report c ctx format (q.query number?)).run.run s).2 := by
  obtain ⟨k, hk⟩ := q.exists_key
  have hsame := q.service_given number? ctx
  obtain ⟨t, hlist, hrequests, rest, hrest⟩ :=
    run_listVersions_of_answers c hserver hr hversions
  have hfind := run_withVersion_of_none c (q.given number? ctx) s (k := k) hnumber
    (by rwa [hsame])
  rw [hsame, hlist] at hfind
  dsimp only at hfind
  rw [q.report_query, Errand.run_bind, hk, hfind]
  by_cases hempty : versions = []
  · subst hempty
    rw [preferred?_sortedOn_nil]
    exact ⟨fun _ => ⟨rfl, hrequests⟩, fun hne => absurd rfl hne, fun hne => absurd rfl hne⟩
  obtain ⟨v, hv, hpreferred⟩ := exists_preferred? hempty
  let found : Context := { q.given number? ctx with version? := some v.number }
  have hfound : found.service = ctx.service := hsame
  have href : found.versionRef = ⟨ctx.service, v.number⟩ := congrArg (VersionRef.mk · v.number) hsame
  rw [hv]
  dsimp only
  refine ⟨fun h => absurd h hempty, fun _ => ⟨v.number, hpreferred, ?_, ?_⟩, fun _ => ?_⟩
  · rw [q.requests_rest c found format (s := t.note ..) hrest, href]
    exact (congrArg (· ++ _) hrequests).trans (List.append_assoc ..)
  · intro hzero
    refine ⟨requests_of_zero c hservice hzero q, ?_⟩
    exact outcomeOf_rest_of_zero c found (hfound ▸ hservice) hzero format q _
  · obtain ⟨w, hw, hlatest, hmax⟩ := run_latestVersion_of_answers c hserver hr hversions hempty
    refine ⟨w, hw, hlatest, hmax, ?_⟩
    intro hinactive
    have hnone : ¬∃ v ∈ versions, v.active = true := by
      rintro ⟨v, hv, hactive⟩
      rw [hinactive v hv] at hactive
      cases hactive
    rw [IsPreferred, if_neg hnone]
    exact ⟨⟨w, hw, rfl⟩, hmax⟩

end Reports

/-- A command works on the right version. Which one it is the versions of the service decide if no
number is given; a number that is given is used as it is, and nothing is looked for; and a kind that
belongs to no version has nothing to look for either. -/
theorem Invocation.run_chooses {i : Invocation} {env : Environment} {d : Disk} {c : Client}
    {s : Session} {plan : List Planned} {service : String}
    (hc : connect (Config.load d Config.defaultPath) env i.options = .ok c)
    (hserver : s.server = .scripted plan)
    (hcontext : (contextOf (Config.load d Config.defaultPath) i.options).service = service)
    (hservice : service ≠ "") :
    (∀ q number?, i.command = .ask (VersionedQuery.query number? q) →
      match q.number? number? i.options with
      | some number =>
        (i.run env d s).2.2.requests = s.requests ++ q.requests c ⟨service, number⟩
      | none => ∀ r versions, c.requestOf? (listVersions service) = some r →
        Answers (takeAnswer r.line plan).1 versions →
        Chooses c service q (i.options.output?.getD .table) s r versions
          (i.run env d s).1 (i.run env d s).2.2) ∧
    ∀ key, (∀ k, Kind.ofKey? key ≠ some (.versioned k)) →
      let ctx := contextOf (Config.load d Config.defaultPath) i.options
      (i.command = .ask (.list key) → (i.run env d s).2.2 = ((list c ctx key).run.run s).2) ∧
      ∀ name,
        (i.command = .ask (.get key name) →
          (i.run env d s).2.2 = ((get c ctx key name).run.run s).2) ∧
        (i.command = .ask (.delete key name) →
          (i.run env d s).2.2 = ((delete c ctx key name).run.run s).2) := by
  subst hcontext
  have hrun {q : Query} (hcommand : i.command = .ask q) :
      i.run env d s = ((runQuery (Config.load d Config.defaultPath) env i.options q s).1, d,
        (runQuery (Config.load d Config.defaultPath) env i.options q s).2) := by
    rw [Invocation.run, hcommand]
  constructor
  · intro q number? hcommand
    rw [hrun hcommand, runQuery_of_connect c hc]
    have hgiven := q.version?_given number? (Config.load d Config.defaultPath) i.options
    cases hnumber : q.number? number? i.options with
    | some number =>
      rw [hnumber] at hgiven
      exact requests_report_of_given c _ _ number? q hgiven hserver
    | none =>
      rw [hnumber] at hgiven
      intro r versions hr hversions
      exact chooses_report_of_none c _ _ number? q hgiven hservice hserver hr hversions
  · intro key hkey ctx
    have hfind := run_withVersion_of_unversioned c ctx key s hkey
    have hsent {α : Type} {q : Query} (hcommand : i.command = .ask q) (x : Context → Errand α)
        (f : α → String) (hreport : report c ctx (i.options.output?.getD .table) q =
          withVersion c ctx key >>= fun ctx => do return f (← x ctx)) :
        (i.run env d s).2.2 = ((x ctx).run.run s).2 := by
      rw [hrun hcommand, runQuery_of_connect c hc, hreport, Errand.run_bind, hfind]
      dsimp only
      rw [Errand.run_map s (x ctx) f]
    refine ⟨?_, fun name => ⟨?_, ?_⟩⟩
    · intro hcommand
      exact hsent hcommand (list c · key) _ rfl
    · intro hcommand
      exact hsent hcommand (get c · key name) _ rfl
    · intro hcommand
      exact hsent hcommand (delete c · key name) (fun _ => deletionReport key name) rfl

/-- The case of a listing of backends without a number, when version 2 is active and version 3 is
the latest. -/
theorem Invocation.run_chooses_active :
    let versions : Json := .list [.object [("number", .text "3")],
      .object [("active", .bool true), ("number", .text "2")]]
    let options : Options := { endpoint? := some "http://[::1]:8080", service? := some "abc" }
    ((Invocation.run ⟨options, .ask (.list "backends")⟩ ⟨some "key", none⟩ .empty
        (.expecting (.saying versions))).2.2.requests.map Request.line) =
      ["GET /service/abc/version", "GET /service/abc/version/2/backend"] := by
  intro versions options
  have hexact : versions.IsExact := by
    refine .list fun v hv => ?_
    rcases List.mem_pair.mp hv with rfl | rfl
    · exact .object (by simpa using .text "3")
    · exact .object (by simpa using ⟨.bool true, .text "2"⟩)
  obtain ⟨read, hread, hnumbers, hactives⟩ : ∃ read,
      (Json.Outline.ofJson versions).readList Json.depthLimit Resource.versionSchema.read =
        .ok read ∧ read.map Version.number = [3, 2] ∧ read.map Version.active = [false, true] :=
    ⟨_, rfl, rfl, rfl⟩
  obtain ⟨c, hclient⟩ := exists_client_loopback
  have hc : connect (Config.load .empty Config.defaultPath) ⟨some "key", none⟩ options = .ok c := by
    change (Client.of? "key" "http://[::1]:8080").mapError Problem.api = .ok c
    rw [hclient]
    rfl
  obtain ⟨first, hfirst, hline⟩ :=
    exists_requestOf?_loopback hclient (i := .listVersions "abc") rfl
  obtain ⟨second, hsecond, hline'⟩ :=
    exists_requestOf?_loopback hclient (i := .resource (.list .backend ⟨"abc", 2⟩)) rfl
  have hruns := Invocation.run_chooses (i := ⟨options, .ask (.list "backends")⟩) (d := .empty)
    (s := .expecting (.saying versions)) hc rfl rfl (by decide : "abc" ≠ "")
  have hchooses := hruns.1 (.list .backend) none rfl first read hfirst (answers_saying hexact hread)
  rcases read with _ | ⟨v, _ | ⟨w, _ | ⟨x, rest⟩⟩⟩ <;> simp at hnumbers hactives
  obtain ⟨number, hpreferred, hrequests, -⟩ := hchooses.chosen (List.cons_ne_nil _ _)
  obtain rfl : number = 2 := by
    rw [IsPreferred, if_pos ⟨w, by simp, hactives.2⟩] at hpreferred
    obtain ⟨⟨u, hu, hactive, rfl⟩, -⟩ := hpreferred
    rcases List.mem_pair.mp hu with rfl | rfl
    · rw [hactives.1] at hactive
      cases hactive
    · exact hnumbers.2
  have hsent : (Invocation.run ⟨options, .ask (.list "backends")⟩ ⟨some "key", none⟩ .empty
      (.expecting (.saying versions))).2.2.requests = [first, second] := by
    refine hrequests.trans ?_
    rw [VersionedQuery.requests_list]
    exact congrArg (first :: ·.toList) hsecond
  have htarget : (Api.Invocation.listVersions "abc").demand.address.target =
      "/service/abc/version" := by decide
  have htarget' : (ResourceInvocation.list .backend ⟨"abc", 2⟩).demand.address.target =
      "/service/abc/version/2/backend" := by decide
  rw [htarget] at hline
  have hline'' : second.line = "GET" ++ " " ++ "/service/abc/version/2/backend" :=
    hline'.trans (congrArg ("GET" ++ " " ++ ·) htarget')
  rw [hsent, List.map_cons, List.map_cons, List.map_nil, hline, hline'']
  rfl

end EdgeConsole.Console
