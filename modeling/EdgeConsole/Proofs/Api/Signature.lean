import Mathlib.Tactic.Choose
import EdgeConsole.Proofs.Api.Team

/-!
# Calls with another key

A client puts its key into its requests and does nothing else with it. So when another key is put
into the requests of a process (`Process.signed`), what comes of it is the same with that key in the
requests that have reached the server (`Process.run_signed`), step by step and among other processes
as well (`Team.Reaches.signed`). And the calls of two clients that differ in their keys are one
process with either key (`goesAlike_run`).
-/

namespace EdgeConsole.Api

open Access (ApiKey)

variable {α β ε ι : Type} {k k' : ApiKey}

/-! ## Requests with another key -/

/-- The request with a key of its own. -/
def Request.signed (k : ApiKey) (r : Request) : Request := { r with key := k }

/-- The session with a key in all its requests. -/
def Session.signed (k : ApiKey) (s : Session) : Session :=
  { s with requests := s.requests.map (·.signed k) }

/-- The client with a key. -/
def Client.signed (k : ApiKey) (c : Client) : Client := { c with key := k }

/-- The answer to a request does not depend on its key. -/
theorem Session.send_signed (k : ApiKey) (r : Request) (s : Session) :
    (s.signed k).send (r.signed k) = ((s.send r).1, (s.send r).2.signed k) := by
  obtain ⟨server, requests, events⟩ := s
  cases server with
  | unreachable => rfl
  | scripted plan =>
    have hrequests : (requests ++ [r]).map (·.signed k) =
        requests.map (·.signed k) ++ [r.signed k] := List.map_append
    rw [send_of_scripted rfl, send_of_scripted rfl, signed, signed, hrequests]
    rfl

theorem Client.request?_signed (c : Client) (method : Method) (path : String)
    (form? : Option (List Web.Form.Pair)) :
    (c.signed k).request? method path form? = (c.request? method path form?).map (·.signed k) := by
  have hurl : (c.signed k).url path = c.url path := rfl
  rw [request?, request?, hurl]
  split
  · split <;> rfl
  · rfl

theorem Client.key_of_request? {c : Client} {method : Method} {path : String}
    {form? : Option (List Web.Form.Pair)} {r : Request}
    (h : c.request? method path form? = some r) : r.key = c.key := by
  unfold request? at h
  split at h
  · split at h
    · obtain rfl := Option.some.inj h
      rfl
    · cases h
  · cases h

/-- Whether a client can be set up does not depend on its key. -/
theorem Client.of?_signed (k k' : ApiKey) (e : String) (agent : Agent) :
    Client.of? k'.text e agent = (Client.of? k.text e agent).map (·.signed k') := by
  rw [of?, of?, ApiKey.ofText?_text, ApiKey.ofText?_text]
  dsimp only
  split
  · rfl
  · split <;> rfl

/-! ## Processes with another key -/

namespace Process

/-- The process with a key in all its requests. -/
def signed (k : ApiKey) : Process α → Process α
  | done result => .done result
  | note level message rest => .note level message (rest.signed k)
  | ask r resume => .ask (r.signed k) fun a => (resume a).signed k

/-- The result of a process that has one. -/
def result? : Process α → Option α
  | done result => some result
  | note _ _ _ => none
  | ask _ _ => none

@[simp] theorem result?_signed (k : ApiKey) (p : Process α) : (p.signed k).result? = p.result? := by
  cases p <;> rfl

/-- A process makes of a session with another key what it made of the session. -/
theorem run_signed (k : ApiKey) (p : Process α) (s : Session) :
    (p.signed k).run (s.signed k) = ((p.run s).1, (p.run s).2.signed k) := by
  induction p generalizing s with
  | done result => rfl
  | note level message rest ih => exact ih (s.note level message)
  | ask r resume ih =>
    rw [signed, run, run, Session.send_signed]
    exact ih _ _

theorem signed_bind (k : ApiKey) (p : Process α) (f : α → Process β) :
    (p.bind f).signed k = (p.signed k).bind fun a => (f a).signed k := by
  induction p with
  | done a => rfl
  | note level message rest ih => rw [bind, signed, ih, signed, bind]
  | ask r resume ih =>
    rw [bind, signed, signed, bind]
    exact congrArg _ (funext fun a => ih a)

theorem Step.signed (k : ApiKey) {p p' : Process α} {s s' : Session} (h : Step (p, s) (p', s')) :
    Step (p.signed k, s.signed k) (p'.signed k, s'.signed k) := by
  cases h with
  | note level message _ s => exact .note level message (p'.signed k) (s.signed k)
  | ask r resume s =>
    have hstep := Step.ask (r.signed k) (fun a => (resume a).signed k) (s.signed k)
    rwa [Session.send_signed] at hstep

/-- What was asked before stays in front of what a process asks. -/
theorem run_asked (p : Process α) (asked : List Request) (s : Session) :
    p.run { s with requests := asked ++ s.requests } =
      ((p.run s).1, { (p.run s).2 with requests := asked ++ (p.run s).2.requests }) := by
  induction p generalizing s with
  | done result => rfl
  | note level message rest ih => exact ih (s.note level message)
  | ask r resume ih =>
    have hsend : ({ s with requests := asked ++ s.requests } : Session).send r =
        ((s.send r).1, { (s.send r).2 with requests := asked ++ (s.send r).2.requests }) := by
      obtain ⟨server, requests, events⟩ := s
      cases server with
      | unreachable => rfl
      | scripted plan =>
        rw [Session.send_of_scripted rfl, Session.send_of_scripted rfl, List.append_assoc]
    rw [run, run, hsend]
    exact ih _ _

variable {P : Request → Prop}

theorem AsksOnly.bind {p : Process α} {f : α → Process β} (hp : p.AsksOnly P)
    (hf : ∀ a, (f a).AsksOnly P) : (p.bind f).AsksOnly P := by
  induction hp with
  | done a => exact hf a
  | note level message _ ih => exact .note level message ih
  | ask hr _ ih => exact .ask hr ih

/-- A step brings the server no other requests than those that the process asks. -/
theorem Step.forall_requests {p p' : Process α} {s s' : Session} (h : Step (p, s) (p', s'))
    (hp : p.AsksOnly P) (hs : ∀ r ∈ s.requests, P r) : ∀ r ∈ s'.requests, P r := by
  cases h with
  | note level message rest s => exact hs
  | ask r resume s =>
    cases hp with
    | ask hr _ =>
      cases hserver : s.server with
      | unreachable =>
        rw [Session.send, hserver]
        exact hs
      | scripted plan =>
        rw [Session.send_of_scripted hserver]
        exact List.forall_mem_append.mpr ⟨hs, List.forall_mem_singleton.mpr hr⟩

theorem AsksOnly.forall_requests {p : Process α} (hp : p.AsksOnly P) {s : Session}
    (hs : ∀ r ∈ s.requests, P r) : ∀ r ∈ (p.run s).2.requests, P r := by
  induction hp generalizing s with
  | done a => exact hs
  | note level message _ ih => exact ih (s := s.note level message) hs
  | @ask r resume hr hresume ih =>
    exact ih _ ((Step.ask r resume s).forall_requests (.ask hr hresume) hs)

end Process

/-! ## Teams with another key -/

namespace Team

/-- The team with a key in all its requests. -/
def signed (k : ApiKey) (t : Team ι α) : Team ι α :=
  ⟨t.session.signed k, t.members.map fun m => (m.1, m.2.signed k)⟩

theorem Step.signed (k : ApiKey) {t t' : Team ι α} (h : Step t t') :
    Step (t.signed k) (t'.signed k) := by
  obtain ⟨front, i, back, hmember⟩ := h
  rw [Team.signed, Team.signed, List.map_append, List.map_append, List.map_cons, List.map_cons]
  exact .member _ i _ (hmember.signed k)

/-- What a team comes to, the team with another key comes to with that key. -/
theorem Reaches.signed (k : ApiKey) {t t' : Team ι α} (h : t.Reaches t') :
    (t.signed k).Reaches (t'.signed k) :=
  Relation.ReflTransGen.lift (Team.signed k) (fun _ _ => Step.signed k) _ _ h

/-- No request is asked, or has been, but these. -/
structure AsksOnly (P : Request → Prop) (t : Team ι α) : Prop where
  asks : ∀ m ∈ t.members, m.2.AsksOnly P
  asked : ∀ r ∈ t.session.requests, P r

theorem AsksOnly.step {P : Request → Prop} {t t' : Team ι α} (h : t.AsksOnly P)
    (hstep : Step t t') : t'.AsksOnly P := by
  obtain ⟨front, i, back, hmember⟩ := hstep
  obtain ⟨hfront, hp, hback⟩ : (∀ m ∈ front, m.2.AsksOnly P) ∧ _ ∧ ∀ m ∈ back, m.2.AsksOnly P := by
    have hasks := h.asks
    rwa [List.forall_mem_append, List.forall_mem_cons] at hasks
  refine ⟨?_, hmember.forall_requests hp h.asked⟩
  exact List.forall_mem_append.mpr
    ⟨hfront, List.forall_mem_cons.mpr ⟨hmember.asksOnly hp, hback⟩⟩

theorem AsksOnly.reaches {P : Request → Prop} {t t' : Team ι α} (h : t.AsksOnly P)
    (hreaches : t.Reaches t') : t'.AsksOnly P := by
  induction hreaches with
  | refl => exact h
  | tail _ hstep ih => exact ih.step hstep

end Team

/-! ## One process with either key -/

/-- The two computations are one process, with a key of its own in the requests of either. -/
def GoesAlike (k k' : ApiKey) (x x' : StateM Session α) : Prop :=
  ∃ p : Process α, p.AsksOnly (·.key = k) ∧ p.Does x ∧ (p.signed k').Does x'

theorem GoesAlike.isStepwise {x x' : StateM Session α} (h : GoesAlike k k' x x') :
    IsStepwise x := by
  obtain ⟨p, -, hp, -⟩ := h
  exact ⟨p, hp⟩

/-- Whatever process does what the one computation does, it does with the other key what the other
computation does. -/
theorem GoesAlike.of_does {x x' : StateM Session α} (h : GoesAlike k k' x x') {p : Process α}
    (hp : p.Does x) : p.AsksOnly (·.key = k) ∧ (p.signed k').Does x' := by
  obtain ⟨q, hasks, hq, hq'⟩ := h
  have hsame (s : Session) : p.run s = q.run s := (hp s).trans (hq s).symm
  constructor
  · apply Process.asksOnly_of_requests
    intro plan
    refine ⟨.start (.scripted plan), _, rfl, (List.nil_append _).symm, ?_⟩
    rw [hsame]
    exact hasks.forall_requests (List.forall_mem_nil _)
  · intro s
    -- a session without requests is the same with any key, and requests in front change nothing
    let fresh : Session := { s with requests := [] }
    have hfresh : (p.signed k').run fresh = (q.signed k').run fresh := by
      have hsigned : fresh.signed k' = fresh := rfl
      rw [← hsigned, Process.run_signed, Process.run_signed, hsame]
    have hasked : s = { fresh with requests := s.requests ++ fresh.requests } := by
      rw [List.append_nil]
    rw [← hq', hasked, Process.run_asked, Process.run_asked, hfresh]

theorem goesAlike_pure (a : α) :
    GoesAlike k k' (pure a : StateM Session α) (pure a : StateM Session α) :=
  ⟨.done a, .done a, fun _ => rfl, fun _ => rfl⟩

theorem goesAlike_note (level : Level) (message : String) :
    GoesAlike k k' (note level message) (note level message) :=
  ⟨.note level message (.done ()), .note level message (.done ()), fun _ => rfl, fun _ => rfl⟩

theorem goesAlike_send {r : Request} (hr : r.key = k) :
    GoesAlike k k' (modifyGet (·.send r)) (modifyGet (·.send (r.signed k'))) :=
  ⟨.ask r .done, .ask hr .done, fun _ => rfl, fun _ => rfl⟩

theorem GoesAlike.bind {x x' : StateM Session α} {f f' : α → StateM Session β}
    (hx : GoesAlike k k' x x') (hf : ∀ a, GoesAlike k k' (f a) (f' a)) :
    GoesAlike k k' (x >>= f) (x' >>= f') := by
  obtain ⟨p, hasks, hp, hp'⟩ := hx
  choose q hasks' hq hq' using hf
  refine ⟨p.bind q, hasks.bind hasks', fun s => ?_, fun s => ?_⟩
  · rw [Process.run_bind, hp, hq]
    rfl
  · rw [Process.signed_bind, Process.run_bind, hp', hq']
    rfl

section Except

variable {x x' : ExceptT ε (StateM Session) α}

theorem goesAlike_result (result : Except ε α) :
    GoesAlike k k' (ExceptT.mk (pure result) : ExceptT ε (StateM Session) α).run
      (ExceptT.mk (pure result) : ExceptT ε (StateM Session) α).run :=
  goesAlike_pure result

theorem GoesAlike.lift {y y' : StateM Session α} (h : GoesAlike k k' y y') :
    GoesAlike k k' (liftM y : ExceptT ε (StateM Session) α).run
      (liftM y' : ExceptT ε (StateM Session) α).run := by
  change GoesAlike k k' (y >>= fun a => pure (Except.ok a)) (y' >>= fun a => pure (Except.ok a))
  exact h.bind fun a => goesAlike_pure (Except.ok a)

theorem GoesAlike.bindExcept {f f' : α → ExceptT ε (StateM Session) β}
    (hx : GoesAlike k k' x.run x'.run) (hf : ∀ a, GoesAlike k k' (f a).run (f' a).run) :
    GoesAlike k k' (x >>= f).run (x' >>= f').run := by
  change GoesAlike k k' (x.run >>= ExceptT.bindCont f) (x'.run >>= ExceptT.bindCont f')
  refine hx.bind fun result => ?_
  cases result with
  | ok a => exact hf a
  | error e => exact goesAlike_pure (Except.error e)

end Except

/-! ## Calls -/

section Calls

variable (c : Client) (k' : ApiKey)

theorem goesAlike_judge (method : Method) (path : String) (a : Answer) :
    GoesAlike c.key k' (c.judge method path a).run ((c.signed k').judge method path a).run := by
  cases a with
  | dropped => exact goesAlike_result (.error Failure.transport)
  | reply status bytes =>
    have hsame : (c.signed k').judge method path (.reply status bytes) =
        c.judge method path (.reply status bytes) := rfl
    rw [hsame]
    unfold Client.judge
    dsimp only
    split
    · exact (goesAlike_note _ _).lift.bindExcept fun _ => goesAlike_result (.ok _)
    · exact (goesAlike_note _ _).lift.bindExcept fun _ => goesAlike_result (.error _)

theorem goesAlike_ask (method : Method) (path : String) (form? : Option (List Web.Form.Pair)) :
    GoesAlike c.key k' (c.ask method path form?).run ((c.signed k').ask method path form?).run := by
  rw [Client.ask, Client.ask, c.request?_signed]
  cases hr : c.request? method path form? with
  | none => exact goesAlike_result (.error Failure.transport)
  | some r =>
    exact (goesAlike_send (Client.key_of_request? hr)).lift.bindExcept
      fun a => goesAlike_judge c k' method path a

theorem goesAlike_exchange (method : Method) (path : String)
    (form? : Option (List Web.Form.Pair)) :
    GoesAlike c.key k' (c.exchange method path form?).run
      ((c.signed k').exchange method path form?).run := by
  have hurl : (c.signed k').url path = c.url path := rfl
  rw [Client.exchange_eq, Client.exchange_eq, hurl]
  exact (goesAlike_note _ _).lift.bindExcept fun _ => goesAlike_ask c k' method path form?

theorem goesAlike_perform (o : Operation α) :
    GoesAlike c.key k' (c.perform o).run ((c.signed k').perform o).run := by
  have hread : GoesAlike c.key k' (c.perform { o with remark? := none }).run
      ((c.signed k').perform { o with remark? := none }).run := by
    unfold Client.perform
    refine (goesAlike_exchange c k' o.method o.path o.form?).bindExcept fun body => ?_
    cases o.read body with
    | ok a => exact goesAlike_result (.ok a)
    | error f => exact goesAlike_result (.error f)
  unfold Client.perform
  cases o.remark? with
  | none => exact hread
  | some remark => exact (goesAlike_note .info remark).lift.bindExcept fun _ => hread

/-- A call does the same with either key. -/
theorem goesAlike_run (p : Prepared α) :
    GoesAlike c.key k' (c.run p).run ((c.signed k').run p).run := by
  cases p with
  | error m => exact goesAlike_result (.error (Failure.missing m))
  | ok o => exact goesAlike_perform c k' o

end Calls

end EdgeConsole.Api
