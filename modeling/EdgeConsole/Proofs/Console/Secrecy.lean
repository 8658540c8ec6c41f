import EdgeConsole.Proofs.Console.Signature
import EdgeConsole.Proofs.Console.Version

/-!
# Nothing tells one key from another

Whatever a program does with a client, it comes to the same with another key: the same results and
failures, the same log, and the same requests but for the key that each of them carries
(`DiffersInKey`). A program that uses a client (`Script`) may decide what to do next by all that
came of its uses before, so a result that the key went into, or its text, would give it away.

`Script.converse_differsInKey` says so of every script, and of scripts that are carried out at one
time, as the listings of a summary are.
-/

namespace EdgeConsole.Console

open Access (ApiKey)
open Api
open Catalog (Kind)

variable {α β ι : Type}

/-! ## Scripts -/

/-- A use of a client, with the type of what it comes to. -/
inductive Use : Type → Type 1
  | endpoint : Use String
  | url (path : String) : Use String
  | call {β : Type} (p : Prepared β) : Use (Except Failure β)
  | list (ctx : Context) (key : String) : Use (Except Problem (List Json))
  | get (ctx : Context) (key name : String) : Use (Except Problem Json)
  | delete (ctx : Context) (key name : String) : Use (Except Problem Unit)
  | summary (ctx : Context) (kinds : List Kind) : Use (List (Kind × Except Problem (List Json)))
  | withVersion (ctx : Context) (key : String) : Use (Except Problem Context)

/-- Uses a client. -/
def Use.perform (c : Client) : Use β → StateM Session β
  | endpoint => pure c.endpoint
  | url path => pure (c.url path)
  | call p => (c.run p).run
  | list ctx key => (Console.list c ctx key).run
  | get ctx key name => (Console.get c ctx key name).run
  | delete ctx key name => (Console.delete c ctx key name).run
  | summary ctx kinds => Console.summary c ctx kinds
  | withVersion ctx key => (Console.withVersion c ctx key).run

theorem goesAlike_use (c : Client) (k' : ApiKey) (u : Use β) :
    GoesAlike c.key k' (u.perform c) (u.perform (c.signed k')) := by
  cases u with
  | endpoint => exact goesAlike_pure c.endpoint
  | url path => exact goesAlike_pure (c.url path)
  | call p => exact goesAlike_run c k' p
  | list ctx key => exact goesAlike_list c k' ctx key
  | get ctx key name => exact goesAlike_get c k' ctx key name
  | delete ctx key name => exact goesAlike_delete c k' ctx key name
  | summary ctx kinds => exact goesAlike_summary c k' ctx kinds
  | withVersion ctx key => exact goesAlike_withVersion c k' ctx key

/-- A program that uses a client, and goes on in whatever way with what comes of each use. -/
inductive Script (α : Type) : Type 1
  | done (result : α)
  | use {β : Type} (u : Use β) (next : β → Script α)

namespace Script

/-- Carries out a script with a client. -/
def run (c : Client) : Script α → StateM Session α
  | done result => pure result
  | use u next => u.perform c >>= fun result => (next result).run c

/-- Whatever is done with a client is one process, with its key or with another. -/
theorem goesAlike_script (c : Client) (k' : ApiKey) (x : Script α) :
    GoesAlike c.key k' (x.run c) (x.run (c.signed k')) := by
  induction x with
  | done result => exact goesAlike_pure result
  | use u next ih => exact (goesAlike_use c k' u).bind ih

/-- Sets up a client with a key and carries out a script with it. -/
def converse (x : Script α) (k : ApiKey) (endpoint : String) (agent : Agent) (server : Server) :
    Except Failure α × Session :=
  match Client.of? k.text endpoint agent with
  | .ok c => ((x.run c).run (.start server)).map .ok id
  | .error f => (.error f, .start server)

end Script

/-! ## Two keys -/

/-- Two sessions that are the same, but that one key is in every request of the one and another in
every request of the other. -/
structure DiffersInKey (k k' : ApiKey) (s t : Session) : Prop where
  server : s.server = t.server
  events : s.events = t.events
  lines : s.requests.map Request.line = t.requests.map Request.line
  bodies : s.requests.map Request.body = t.requests.map Request.body
  contentTypes : s.requests.map Request.contentType? = t.requests.map Request.contentType?
  agents : s.requests.map Request.agent = t.requests.map Request.agent
  key : ∀ r ∈ s.requests, r.key = k
  otherKey : ∀ r ∈ t.requests, r.key = k'

theorem differsInKey_signed {k : ApiKey} (k' : ApiKey) {s : Session}
    (h : ∀ r ∈ s.requests, r.key = k) : DiffersInKey k k' s (s.signed k') := by
  have hsame {γ : Type} (f : Request → γ) (hf : ∀ r, f (r.signed k') = f r) :
      s.requests.map f = (s.signed k').requests.map f := by
    rw [Session.signed, List.map_map]
    exact List.map_congr_left fun r _ => (hf r).symm
  constructor
  · rfl
  · rfl
  · exact hsame _ fun _ => rfl
  · exact hsame _ fun _ => rfl
  · exact hsame _ fun _ => rfl
  · exact hsame _ fun _ => rfl
  · exact h
  · intro r hr
    obtain ⟨q, -, rfl⟩ := List.mem_map.mp hr
    rfl

/-- Scripts that are carried out at one time, each as its process. -/
def atOnce (server : Server) (p : Script α → Process α) (scripts : List (ι × Script α)) :
    Team ι α :=
  ⟨.start server, scripts.map fun m => (m.1, p m.2)⟩

/-- What the members of a team have come to so far. -/
def results (t : Team ι α) : List (ι × Option α) := t.members.map fun m => (m.1, m.2.result?)

theorem results_signed (k : ApiKey) (t : Team ι α) : results (t.signed k) = results t := by
  rw [results, Team.signed, List.map_map]
  exact List.map_congr_left fun m _ => congrArg (Prod.mk m.1) (m.2.result?_signed k)

namespace Script

/-- Two runs of a script, with a key each. -/
theorem converse_eq (x : Script α) (k k' : ApiKey) (endpoint : String) (agent : Agent)
    (server : Server) :
    (x.converse k' endpoint agent server).1 = (x.converse k endpoint agent server).1 ∧
      DiffersInKey k k' (x.converse k endpoint agent server).2
        (x.converse k' endpoint agent server).2 := by
  have hstart : (Session.start server).signed k' = .start server := rfl
  rw [converse, converse, Client.of?_signed k k']
  cases hc : Client.of? k.text endpoint agent with
  | error f => exact ⟨rfl, differsInKey_signed k' (List.forall_mem_nil _)⟩
  | ok c =>
    obtain rfl := Client.key_of_of? hc
    obtain ⟨p, hasks, hp, hp'⟩ := x.goesAlike_script c k'
    have hrun := p.run_signed k' (.start server)
    rw [hstart, hp, hp'] at hrun
    have hkey := hasks.forall_requests (s := .start server) (List.forall_mem_nil _)
    rw [hp] at hkey
    dsimp only [Except.map, Prod.map]
    rw [hrun]
    exact ⟨rfl, differsInKey_signed k' hkey⟩

/-- Two runs of scripts that are carried out at one time, with a key each. -/
theorem reaches_signed {k k' : ApiKey} {endpoint : String} {agent : Agent} {c c' : Client}
    (hc : Client.of? k.text endpoint agent = .ok c)
    (hc' : Client.of? k'.text endpoint agent = .ok c') {p : Script α → Process α}
    (hp : ∀ x, (p x).Does (x.run c)) :
    (∀ x, ((p x).signed k').Does (x.run c')) ∧
    ∀ (server : Server) (scripts : List (ι × Script α)) (t : Team ι α),
      (atOnce server p scripts).Reaches t →
        (atOnce server (fun x => (p x).signed k') scripts).Reaches (t.signed k') ∧
          results (t.signed k') = results t ∧
            DiffersInKey k k' t.session (t.signed k').session := by
  have hsigned : c' = c.signed k' := by
    rw [Client.of?_signed k k', hc] at hc'
    exact (Except.ok.inj hc').symm
  obtain rfl := Client.key_of_of? hc
  have halike (x : Script α) := (x.goesAlike_script c k').of_does (hp x)
  refine ⟨fun x => hsigned ▸ (halike x).2, ?_⟩
  intro server scripts t hreaches
  have hteam : (atOnce server p scripts).signed k' =
      atOnce server (fun x => (p x).signed k') scripts := by
    rw [atOnce, Team.signed, List.map_map]
    rfl
  have hasks : (atOnce server p scripts).AsksOnly (·.key = c.key) := by
    refine ⟨?_, List.forall_mem_nil _⟩
    intro m hm
    obtain ⟨x, -, rfl⟩ := List.mem_map.mp hm
    exact (halike x.2).1
  refine ⟨hteam ▸ hreaches.signed k', results_signed k' t, ?_⟩
  exact differsInKey_signed k' (hasks.reaches hreaches).asked

/-- Two keys make no difference but in the key of each request: not to what a script comes to with a
client of its own, and not to what any number of scripts that share a client come to at one time,
however their requests alternate. -/
theorem converse_differsInKey (k k' : ApiKey) (endpoint : String) (agent : Agent)
    (server : Server) :
    (∀ x : Script α,
      (x.converse k' endpoint agent server).1 = (x.converse k endpoint agent server).1 ∧
        DiffersInKey k k' (x.converse k endpoint agent server).2
          (x.converse k' endpoint agent server).2) ∧
    ∀ c c', Client.of? k.text endpoint agent = .ok c →
      Client.of? k'.text endpoint agent = .ok c' →
      (∀ x : Script α, IsStepwise (x.run c)) ∧
      ∀ p : Script α → Process α, (∀ x, (p x).Does (x.run c)) →
        ∃ p' : Script α → Process α, (∀ x, (p' x).Does (x.run c')) ∧
          ∀ (scripts : List (ι × Script α)) (t : Team ι α), (atOnce server p scripts).Reaches t →
            ∃ t', (atOnce server p' scripts).Reaches t' ∧ results t' = results t ∧
              DiffersInKey k k' t.session t'.session := by
  refine ⟨fun x => x.converse_eq k k' endpoint agent server, fun c c' hc hc' => ⟨?_, ?_⟩⟩
  · exact fun x => (x.goesAlike_script c k').isStepwise
  · intro p hp
    obtain ⟨hp', hreaches⟩ := reaches_signed hc hc' hp
    exact ⟨_, hp', fun scripts t ht => ⟨_, hreaches server scripts t ht⟩⟩

/-- The case of a script that lists the services, by itself and as the only member of a team. -/
theorem converse_differsInKey_services :
    let x : Script (Except Failure (List Resource.Service)) := .use (.call listServices) .done
    let server : Server := .scripted [⟨none, .saying (.list [])⟩]
    ∃ (k k' : ApiKey) (c c' : Client), k.text = "key" ∧ k'.text = "other" ∧
      Client.of? k.text "http://[::1]:8080" = .ok c ∧
      Client.of? k'.text "http://[::1]:8080" = .ok c' ∧
      (x.converse k' "http://[::1]:8080" .console server).2.requests.map Request.line =
        ["GET /service"] ∧
      ∃ (p' : Script (Except Failure (List Resource.Service)) → _) (t' : Team Unit _),
        (p' x).Does (x.run c') ∧ (atOnce server p' [((), x)]).Reaches t' ∧
          t'.session.requests.map Request.line = ["GET /service"] ∧
          ∀ r ∈ t'.session.requests, r.key = k' := by
  intro x server
  let k : ApiKey := ⟨"key", by decide⟩
  let k' : ApiKey := ⟨"other", by decide⟩
  obtain ⟨c, hc⟩ : ∃ c, Client.of? k.text "http://[::1]:8080" = .ok c := exists_client_loopback
  have hc' : Client.of? k'.text "http://[::1]:8080" = .ok (c.signed k') := by
    rw [Client.of?_signed k k', hc]
    rfl
  -- with the first key the listing sends its one request
  have hlines : ((x.run c).run (.start server)).2.requests.map Request.line = ["GET /service"] := by
    obtain ⟨r, hr, hline⟩ := exists_requestOf?_loopback hc (i := .listServices) rfl
    have hsent : ((x.run c).run (.start server)).2.requests =
        [] ++ (c.requestOf? Invocation.listServices.prepared).toList :=
      (c.run_of_scripted listServices rfl).1
    have htarget : Invocation.listServices.demand.address.target = "/service" := by decide
    rw [htarget] at hline
    rw [hsent, hr, Option.toList_some, List.nil_append, List.map_singleton, hline]
    rfl
  obtain ⟨halone, htogether⟩ := converse_differsInKey (ι := Unit) k k' "http://[::1]:8080" .console
    server (α := Except Failure (List Resource.Service))
  obtain ⟨hstepwise, hteams⟩ := htogether c (c.signed k') hc hc'
  choose p hp using hstepwise
  obtain ⟨p', hp', hreaches⟩ := hteams p hp
  refine ⟨k, k', c, c.signed k', rfl, rfl, hc, hc', ?_, p', ?_⟩
  · have hconverse : (x.converse k "http://[::1]:8080" .console server).2 =
        ((x.run c).run (.start server)).2 := by
      rw [converse, hc]
      rfl
    rw [← (halone x).2.lines, hconverse, hlines]
  · have hrun := Team.reaches_run (ι := Unit) [] [] () (p x) (.start server)
    rw [hp x] at hrun
    obtain ⟨t', ht', -, hdiffers⟩ := hreaches [((), x)] _ hrun
    exact ⟨t', hp' x, ht', hdiffers.lines.symm.trans hlines, hdiffers.otherKey⟩

end Script

end EdgeConsole.Console
