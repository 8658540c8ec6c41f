import EdgeConsole.Proofs.Api.Exchange

/-!
# Computations that share a session

While a computation waits for an answer, others may go on with the same server and the same log. A
`Process` is a computation in which the places where that can happen are visible: it notes an event,
or it asks a request and goes on with the answer. An `ask` happens at the moment at which its request
reaches the server. How long the request was on its way, and when its answer is taken up, makes no
difference to anybody else, and until then the process does nothing.

What a process comes to depends on nothing but the answers that the server has ready for its own
requests (`Process.run_congr`), and if every answer is meant for one request line, then it leaves alone
what is ready for the others (`Process.keeps_run`).
-/

namespace EdgeConsole.Api

variable {α β : Type}

/-! ## Processes -/

/-- A computation that notes events and asks a server, one step at a time. -/
inductive Process (α : Type) : Type
  | done (result : α)
  | note (level : Level) (message : String) (rest : Process α)
  | ask (r : Request) (resume : Answer → Process α)

namespace Process

/-- Carries out a process with nothing in between. -/
def run : Process α → Session → α × Session
  | done result, s => (result, s)
  | note level message rest, s => rest.run (s.note level message)
  | ask r resume, s => (resume (s.send r).1).run (s.send r).2

/-- One step of a process in a session. -/
inductive Step : Process α × Session → Process α × Session → Prop
  | note (level : Level) (message : String) (rest : Process α) (s : Session) :
    Step (.note level message rest, s) (rest, s.note level message)
  | ask (r : Request) (resume : Answer → Process α) (s : Session) :
    Step (.ask r resume, s) (resume (s.send r).1, (s.send r).2)

/-- What is left to do after a step completes the run. -/
theorem Step.run_eq {p p' : Process α} {s s' : Session} (h : Step (p, s) (p', s')) :
    p'.run s' = p.run s := by
  cases h <;> rfl

theorem exists_step_or_done (p : Process α) (s : Session) :
    (∃ result, p = .done result) ∨ ∃ next, Step (p, s) next := by
  cases p with
  | done result => exact .inl ⟨result, rfl⟩
  | note level message rest => exact .inr ⟨_, .note level message rest s⟩
  | ask r resume => exact .inr ⟨_, .ask r resume s⟩

/-- The process does, uninterrupted, what the computation does. -/
def Does (p : Process α) (x : StateM Session α) : Prop := ∀ s, p.run s = x.run s

/-- A process followed by another. -/
def bind : Process α → (α → Process β) → Process β
  | done a, f => f a
  | note level message rest, f => .note level message (rest.bind f)
  | ask r resume, f => .ask r fun a => (resume a).bind f

theorem run_bind (p : Process α) (f : α → Process β) (s : Session) :
    (p.bind f).run s = (f (p.run s).1).run (p.run s).2 := by
  induction p generalizing s with
  | done a => rfl
  | note level message rest ih => exact ih _
  | ask r resume ih => exact ih _ _

end Process

/-- The computation is what some process does. -/
def IsStepwise (x : StateM Session α) : Prop := ∃ p : Process α, p.Does x

/-! ## What a process asks -/

namespace Process

/-- Whatever the answers are, the process asks no other requests than these. -/
inductive AsksOnly (P : Request → Prop) : Process α → Prop
  | done (result : α) : AsksOnly P (.done result)
  | note (level : Level) (message : String) {rest : Process α} (h : AsksOnly P rest) :
    AsksOnly P (.note level message rest)
  | ask {r : Request} {resume : Answer → Process α} (hr : P r)
    (h : ∀ a, AsksOnly P (resume a)) : AsksOnly P (.ask r resume)

theorem Step.asksOnly {P : Request → Prop} {p p' : Process α} {s s' : Session}
    (h : Step (p, s) (p', s')) (hp : p.AsksOnly P) : p'.AsksOnly P := by
  cases h with
  | note level message rest s =>
    cases hp with
    | note _ _ hrest => exact hrest
  | ask r resume s =>
    cases hp with
    | ask _ hresume => exact hresume _

theorem exists_requests_run (p : Process α) (s : Session) :
    ∃ sent, (p.run s).2.requests = s.requests ++ sent := by
  induction p generalizing s with
  | done result => exact ⟨[], (List.append_nil _).symm⟩
  | note level message rest ih => exact ih (s.note level message)
  | ask r resume ih =>
    obtain ⟨sent, hsent⟩ := ih (s.send r).1 (s.send r).2
    cases hserver : s.server with
    | unreachable =>
      refine ⟨sent, hsent.trans ?_⟩
      rw [Session.send, hserver]
    | scripted plan =>
      refine ⟨r :: sent, hsent.trans ?_⟩
      rw [Session.send_of_scripted hserver, List.append_assoc, List.singleton_append]

/-- A process that asks certain requests only, whatever the server has ready, can do no other. -/
theorem asksOnly_of_requests {P : Request → Prop} {p : Process α}
    (h : ∀ plan, ∃ s sent, s.server = .scripted plan ∧
      (p.run s).2.requests = s.requests ++ sent ∧ ∀ r ∈ sent, P r) : p.AsksOnly P := by
  induction p with
  | done result => exact .done result
  | note level message rest ih =>
    refine .note level message (ih fun plan => ?_)
    obtain ⟨s, sent, hserver, hsent, hP⟩ := h plan
    exact ⟨s.note level message, sent, hserver, hsent, hP⟩
  | ask r resume ih =>
    -- The first request is there in every run, and a plan can make any answer its answer.
    have hfirst {s : Session} {plan : List Planned} {sent : List Request}
        (hserver : s.server = .scripted plan)
        (hsent : ((ask r resume).run s).2.requests = s.requests ++ sent) :
        ∃ more, sent = r :: more ∧ ((resume (s.send r).1).run (s.send r).2).2.requests =
          (s.send r).2.requests ++ more := by
      obtain ⟨more, hmore⟩ := exists_requests_run (resume (s.send r).1) (s.send r).2
      refine ⟨more, ?_, hmore⟩
      rw [Session.send_of_scripted hserver] at hmore
      rw [run, Session.send_of_scripted hserver, hmore, List.append_assoc] at hsent
      exact (List.append_cancel_left hsent).symm
    constructor
    · obtain ⟨s, sent, hserver, hsent, hP⟩ := h []
      obtain ⟨more, rfl, -⟩ := hfirst hserver hsent
      exact hP r List.mem_cons_self
    · intro a
      refine ih a fun plan => ?_
      obtain ⟨s, sent, hserver, hsent, hP⟩ := h (⟨some r.line, a⟩ :: plan)
      obtain ⟨more, rfl, hmore⟩ := hfirst hserver hsent
      rw [Session.send_of_scripted hserver, takeAnswer_cons_self] at hmore
      exact ⟨_, more, rfl, hmore, fun q hq => hP q (List.mem_cons_of_mem _ hq)⟩

end Process

/-! ## What a server has ready -/

/-- The answers that a server has ready for a request line, in order; none if it is out of reach. -/
def Server.ready? (line : String) : Server → Option (List Planned)
  | .unreachable => none
  | .scripted plan => some (plan.filter (·.suits line))

/-- Every answer that the server has ready is meant for one request line. -/
def Server.IsAddressed : Server → Prop
  | .unreachable => True
  | .scripted plan => ∀ p ∈ plan, p.line? ≠ none

theorem takeAnswer_eq (line : String) (plan : List Planned) :
    takeAnswer line plan =
      (((plan.filter (·.suits line)).head?.map Planned.answer).getD unplanned,
        plan.eraseP (·.suits line)) := by
  rw [takeAnswer, List.head?_filter]
  cases hfind : plan.find? (·.suits line) with
  | some p => rfl
  | none =>
    rw [List.eraseP_of_forall_not fun p hp => List.find?_eq_none.mp hfind p hp]
    rfl

/-- The answer that is taken was the first one ready. -/
theorem filter_eraseP_suits (line : String) (plan : List Planned) :
    (plan.eraseP (·.suits line)).filter (·.suits line) = (plan.filter (·.suits line)).tail := by
  induction plan with
  | nil => rfl
  | cons p plan ih =>
    by_cases hp : p.suits line = true
    · rw [List.eraseP_cons_of_pos hp, List.filter_cons_of_pos hp, List.tail_cons]
    · rw [List.eraseP_cons_of_neg hp, List.filter_cons_of_neg hp, List.filter_cons_of_neg hp, ih]

theorem line_eq_of_suits {line other : String} {p : Planned} (h : p.suits line = true)
    (h' : p.suits other = true) (hp : p.line? ≠ none) : line = other := by
  obtain ⟨text, htext⟩ := Option.ne_none_iff_exists'.mp hp
  rw [Planned.suits, htext, Option.all_some, beq_iff_eq] at h h'
  exact h.symm.trans h'

/-- What is ready for another line stays. -/
theorem filter_eraseP_suits_of_ne {line other : String} (hne : line ≠ other) {plan : List Planned}
    (h : ∀ p ∈ plan, p.line? ≠ none) :
    (plan.eraseP (·.suits line)).filter (·.suits other) = plan.filter (·.suits other) := by
  induction plan with
  | nil => rfl
  | cons p plan ih =>
    obtain ⟨hp, hplan⟩ := List.forall_mem_cons.mp h
    by_cases hline : p.suits line = true
    · have hother : ¬p.suits other = true := fun hother =>
        hne (line_eq_of_suits hline hother hp)
      rw [List.eraseP_cons_of_pos hline, List.filter_cons_of_neg hother]
    · rw [List.eraseP_cons_of_neg hline, List.filter_cons, List.filter_cons, ih hplan]

namespace Session

/-- A request is answered by what is ready for its line. -/
theorem send_congr_of_ready {s t : Session} {r : Request}
    (h : s.server.ready? r.line = t.server.ready? r.line) :
    (s.send r).1 = (t.send r).1 ∧
      (s.send r).2.server.ready? r.line = (t.send r).2.server.ready? r.line := by
  cases hs : s.server with
  | unreachable =>
    cases ht : t.server with
    | unreachable =>
      rw [send, send, hs, ht]
      exact ⟨rfl, by rw [hs, ht]⟩
    | scripted plan =>
      rw [hs, ht] at h
      cases h
  | scripted plan =>
    cases ht : t.server with
    | unreachable =>
      rw [hs, ht] at h
      cases h
    | scripted plan' =>
      rw [hs, ht] at h
      have hfilter := Option.some.inj h
      rw [send_of_scripted hs, send_of_scripted ht, takeAnswer_eq, takeAnswer_eq]
      refine ⟨by rw [hfilter], congrArg some ?_⟩
      rw [filter_eraseP_suits, filter_eraseP_suits, hfilter]

/-- What the server has ready for other requests than these is still the same. -/
structure Keeps (P : Request → Prop) (s t : Session) : Prop where
  addressed : t.server.IsAddressed
  ready : ∀ line, (∀ r, P r → r.line ≠ line) → t.server.ready? line = s.server.ready? line

theorem Keeps.trans {P : Request → Prop} {s t u : Session} (h : s.Keeps P t) (h' : t.Keeps P u) :
    s.Keeps P u :=
  ⟨h'.addressed, fun line hline => (h'.ready line hline).trans (h.ready line hline)⟩

theorem keeps_send {P : Request → Prop} {s : Session} (hs : s.server.IsAddressed) {r : Request}
    (hr : P r) : s.Keeps P (s.send r).2 := by
  cases hserver : s.server with
  | unreachable =>
    rw [send, hserver]
    exact ⟨hs, fun _ _ => rfl⟩
  | scripted plan =>
    rw [hserver] at hs
    rw [send_of_scripted hserver, takeAnswer_eq]
    refine ⟨fun p hp => hs p (List.mem_of_mem_eraseP hp), fun line hline => ?_⟩
    rw [hserver]
    exact congrArg some (filter_eraseP_suits_of_ne (hline r hr) hs)

end Session

namespace Process

variable {P : Request → Prop} {p p' : Process α} {s s' t : Session}

theorem Step.keeps (h : Step (p, s) (p', s')) (hp : p.AsksOnly P) (hs : s.server.IsAddressed) :
    s.Keeps P s' := by
  cases h with
  | note level message rest s => exact ⟨hs, fun _ _ => rfl⟩
  | ask r resume s =>
    cases hp with
    | ask hr _ => exact Session.keeps_send hs hr

/-- A process takes no answers but those to its own requests. -/
theorem keeps_run (hp : p.AsksOnly P) (hs : s.server.IsAddressed) : s.Keeps P (p.run s).2 := by
  induction hp generalizing s with
  | done result => exact ⟨hs, fun _ _ => rfl⟩
  | note level message hrest ih =>
    have hkeeps := ih (s := s.note level message) hs
    exact ⟨hkeeps.addressed, hkeeps.ready⟩
  | @ask r resume hr hresume ih =>
    have hsent := Session.keeps_send hs hr
    exact hsent.trans (ih _ hsent.addressed)

/-- What a process comes to depends on the answers to its own requests alone. -/
theorem run_congr (hp : p.AsksOnly P) (hs : s.server.IsAddressed) (ht : t.server.IsAddressed)
    (h : ∀ r, P r → s.server.ready? r.line = t.server.ready? r.line) :
    (p.run s).1 = (p.run t).1 := by
  induction hp generalizing s t with
  | done result => rfl
  | note level message hrest ih =>
    exact ih (s := s.note level message) (t := t.note level message) hs ht h
  | @ask r resume hr hresume ih =>
    obtain ⟨hanswer, hready⟩ := Session.send_congr_of_ready (h r hr)
    have hs' := Session.keeps_send (P := (· = r)) hs rfl
    have ht' := Session.keeps_send (P := (· = r)) ht rfl
    rw [run, run, hanswer]
    refine ih _ hs'.addressed ht'.addressed fun q hq => ?_
    by_cases hline : r.line = q.line
    · rwa [← hline]
    · have hother : ∀ q', q' = r → q'.line ≠ q.line := fun q' hq' => hq' ▸ hline
      rw [hs'.ready _ hother, ht'.ready _ hother, h q hq]

end Process

end EdgeConsole.Api
