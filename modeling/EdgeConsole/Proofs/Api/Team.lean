import Mathlib.Data.List.Nodup
import Mathlib.Logic.Relation
import EdgeConsole.Proofs.Api.Process

/-!
# Processes that run together

The members of a `Team` are processes that share a session. Any member that is not done may take the
next step, so the runs of a team, `Relation.ReflTransGen Team.Step`, have the requests of the members
reach the server in every order there is. No run goes on for ever (`Team.wellFounded_step`), and where
no step is left all members are done.

When different members ask different request lines, and every answer is meant for one line, the
members do not notice one another. The invariant is `Team.IsIsolated`, that each member still comes to
what it would come to by itself; one step preserves it (`IsIsolated.step`), and so does a run
(`IsIsolated.reaches`).
-/

namespace EdgeConsole.Api

variable {ι α : Type}

/-- Processes, each under a name, that share a session. -/
structure Team (ι α : Type) where
  session : Session
  members : List (ι × Process α)

namespace Team

/-- One member takes a step. -/
inductive Step : Team ι α → Team ι α → Prop
  | member {s s' : Session} {p p' : Process α} (front : List (ι × Process α)) (i : ι)
    (back : List (ι × Process α)) (h : Process.Step (p, s) (p', s')) :
    Step ⟨s, front ++ (i, p) :: back⟩ ⟨s', front ++ (i, p') :: back⟩

/-- The team gets there by steps of its members. -/
def Reaches : Team ι α → Team ι α → Prop := Relation.ReflTransGen Step

/-- No member has anything left to do. -/
def IsOver (t : Team ι α) : Prop := ∀ t', ¬Step t t'

/-! ## Every run ends -/

/-- A process is what is left of another after a step. -/
def Follows (p' p : Process α) : Prop := ∃ s s', Process.Step (p, s) (p', s')

theorem acc_follows (p : Process α) : Acc Follows p := by
  induction p with
  | done result =>
    refine ⟨_, ?_⟩
    rintro p' ⟨s, s', ⟨⟩⟩
  | note level message rest ih =>
    refine ⟨_, ?_⟩
    rintro p' ⟨s, s', hstep⟩
    cases hstep
    exact ih
  | ask r resume ih =>
    refine ⟨_, ?_⟩
    rintro p' ⟨s, s', hstep⟩
    cases hstep
    exact ih _

/-- One of the members is followed by what is left of it. -/
inductive Advances : List (ι × Process α) → List (ι × Process α) → Prop
  | head (i : ι) {p p' : Process α} (rest : List (ι × Process α)) (h : Follows p' p) :
    Advances ((i, p') :: rest) ((i, p) :: rest)
  | tail (m : ι × Process α) {rest rest' : List (ι × Process α)} (h : Advances rest' rest) :
    Advances (m :: rest') (m :: rest)

theorem Step.advances {t t' : Team ι α} (h : Step t t') : Advances t'.members t.members := by
  obtain ⟨front, i, back, hstep⟩ := h
  induction front with
  | nil => exact .head i back ⟨_, _, hstep⟩
  | cons m front ih => exact .tail m ih

theorem acc_advances_cons (i : ι) {p : Process α} (hp : Acc Follows p) :
    ∀ {rest : List (ι × Process α)}, Acc Advances rest → Acc Advances ((i, p) :: rest) := by
  induction hp with
  | intro p _ ihp =>
    intro rest hrest
    induction hrest with
    | intro rest hrest ihrest =>
      refine ⟨_, fun next hnext => ?_⟩
      cases hnext with
      | head _ _ hfollows => exact ihp _ hfollows ⟨rest, hrest⟩
      | tail _ hadvances => exact ihrest _ hadvances

theorem acc_advances (members : List (ι × Process α)) : Acc Advances members := by
  induction members with
  | nil => exact ⟨_, fun _ h => nomatch h⟩
  | cons m members ih => exact acc_advances_cons m.1 (acc_follows m.2) ih

/-- No run of a team goes on for ever. -/
theorem wellFounded_step : WellFounded fun t' t : Team ι α => Step t t' :=
  ⟨fun t => Subrelation.accessible (r := InvImage Advances members) Step.advances
    (InvImage.accessible members (acc_advances t.members))⟩

/-- Where no step is left, all members are done. -/
theorem IsOver.exists_done {t : Team ι α} (h : t.IsOver) {m : ι × Process α} (hm : m ∈ t.members) :
    ∃ result, m.2 = .done result := by
  obtain ⟨front, back, hmembers⟩ := List.append_of_mem hm
  rcases m.2.exists_step_or_done t.session with hdone | ⟨⟨p', s'⟩, hstep⟩
  · exact hdone
  · refine absurd (Step.member front m.1 back hstep) ?_
    rw [← hmembers]
    exact h _

theorem isOver_of_done {t : Team ι α} (h : ∀ m ∈ t.members, ∃ result, m.2 = .done result) :
    t.IsOver := by
  rintro t' ⟨front, i, back, hstep⟩
  obtain ⟨result, hdone⟩ := h _ (List.mem_append_right front List.mem_cons_self)
  dsimp only at hdone
  subst hdone
  cases hstep

/-! ## Members that do not notice one another -/

/-- Every member asks its own requests and comes to its own result. -/
structure IsIsolated (P : ι → Request → Prop) (result : ι → α) (names : List ι) (t : Team ι α) :
    Prop where
  names : t.members.map Prod.fst = names
  addressed : t.session.server.IsAddressed
  asks : ∀ m ∈ t.members, m.2.AsksOnly (P m.1)
  comes : ∀ m ∈ t.members, (m.2.run t.session).1 = result m.1

namespace IsIsolated

variable {P : ι → Request → Prop} {result : ι → α} {names : List ι} {t t' : Team ι α}

/-- A step changes nothing for the other members, as it takes no answer that is meant for them. -/
theorem step (hnames : names.Nodup)
    (hapart : ∀ i j, i ≠ j → ∀ r r', P i r → P j r' → r.line ≠ r'.line)
    (h : t.IsIsolated P result names) (hstep : Step t t') : t'.IsIsolated P result names := by
  obtain ⟨front, i, back, hmember⟩ := hstep
  rename_i s s' p p'
  have hmem : (i, p) ∈ front ++ (i, p) :: back := by simp
  have hasks := h.asks _ hmem
  have hkeeps := hmember.keeps hasks h.addressed
  have hothers : ∀ m ∈ front ++ back, m.1 ≠ i := by
    have hnodup : (i :: (front ++ back).map Prod.fst).Nodup := by
      rw [List.map_append, ← List.nodup_middle, ← List.map_cons (f := Prod.fst) (a := (i, p)),
        ← List.map_append]
      exact h.names ▸ hnames
    rintro m hm rfl
    exact (List.nodup_cons.mp hnodup).1 (List.mem_map_of_mem hm)
  have hstays : ∀ m ∈ front ++ back, m ∈ front ++ (i, p) :: back := fun m hm => by
    rcases List.mem_append.mp hm with hm | hm <;> simp [hm]
  have hcases : ∀ m ∈ front ++ (i, p') :: back, m = (i, p') ∨ m ∈ front ++ back := fun m hm => by
    simpa [or_left_comm] using hm
  constructor
  · rw [← h.names, List.map_append, List.map_append]
    rfl
  · exact hkeeps.addressed
  · intro m hm
    rcases hcases m hm with rfl | hm
    · exact hmember.asksOnly hasks
    · exact h.asks m (hstays m hm)
  · intro m hm
    rcases hcases m hm with rfl | hm
    · exact (congrArg Prod.fst hmember.run_eq).trans (h.comes _ hmem)
    · rw [← h.comes m (hstays m hm)]
      refine Process.run_congr (h.asks m (hstays m hm)) hkeeps.addressed h.addressed fun r hr => ?_
      exact hkeeps.ready r.line fun q hq => hapart i m.1 (hothers m hm).symm q r hq hr

theorem reaches (hnames : names.Nodup)
    (hapart : ∀ i j, i ≠ j → ∀ r r', P i r → P j r' → r.line ≠ r'.line)
    (h : t.IsIsolated P result names) (hreaches : t.Reaches t') : t'.IsIsolated P result names := by
  induction hreaches with
  | refl => exact h
  | tail _ hstep ih => exact ih.step hnames hapart hstep

/-- Once all members are done, each has its own result. -/
theorem members_of_isOver (h : t.IsIsolated P result names) (hover : t.IsOver) :
    t.members = names.map fun i => (i, .done (result i)) := by
  rw [← h.names, List.map_map]
  refine (List.map_id t.members).symm.trans (List.map_congr_left fun m hm => ?_)
  obtain ⟨a, ha⟩ := hover.exists_done hm
  have hcomes := h.comes m hm
  rw [ha] at hcomes
  exact Prod.ext rfl (ha.trans (congrArg Process.done hcomes))

end IsIsolated

/-! ## Members one after the other -/

/-- A member may run to its end with nothing in between. -/
theorem reaches_run (front back : List (ι × Process α)) (i : ι) (p : Process α) (s : Session) :
    Reaches ⟨s, front ++ (i, p) :: back⟩
      ⟨(p.run s).2, front ++ (i, .done (p.run s).1) :: back⟩ := by
  induction p generalizing s with
  | done result => exact .refl
  | note level message rest ih => exact .head (.member front i back (.note ..)) (ih _)
  | ask r resume ih => exact .head (.member front i back (.ask ..)) (ih _ _)

end Team

end EdgeConsole.Api
