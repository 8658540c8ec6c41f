import EdgeConsole.Console.Dispatch
import EdgeConsole.Proofs.Api.Exchange

/-!
# Errands step by step

An errand does nothing to a session but by the operations that it asks for and by its notes. The
lemmas here run it one step at a time: a bind, a look-up, a note, and an operation whose result is
converted (`carried`). A note changes nothing that a server could see, so what an errand does is a
matter of sessions up to their logs (`Client.run_congr`).
-/

namespace EdgeConsole.Console

open Api
open Record (Row)

variable {α β : Type}

/-- The result of a call, converted, or its failure as a problem. -/
def carried (f : α → β) (run : Except Failure α × Session) : Except Problem β × Session :=
  match run with
  | (.ok a, s) => (.ok (f a), s)
  | (.error e, s) => (.error (.api e), s)

@[simp] theorem snd_carried (f : α → β) (run : Except Failure α × Session) :
    (carried f run).2 = run.2 := by
  obtain ⟨e | a, s⟩ := run <;> rfl

theorem fst_carried (f : α → β) (run : Except Failure α × Session) :
    (carried f run).1 = (run.1.map f).mapError Problem.api := by
  obtain ⟨e | a, s⟩ := run <;> rfl

/-- A result that was converted came of another. -/
theorem exists_of_fst_carried {f : α → β} {run : Except Failure α × Session} {b : β}
    (h : (carried f run).1 = .ok b) : ∃ a, b = f a := by
  obtain ⟨e | a, t⟩ := run
  · cases h
  · exact ⟨a, (Except.ok.inj h).symm⟩

namespace Errand

variable (s : Session)

theorem run_bind (x : Errand α) (f : α → Errand β) :
    (x >>= f).run.run s =
      match x.run.run s with
      | (.ok a, t) => (f a).run.run t
      | (.error p, t) => (.error p, t) := by
  change (ExceptT.bindCont f (x.run.run s).1).run (x.run.run s).2 = _
  obtain ⟨result, t⟩ := x.run.run s
  cases result <;> rfl

theorem run_lift_bind (x : Except Problem α) (f : α → Errand β) :
    ((liftM x : Errand α) >>= f).run.run s =
      match x with
      | .ok a => (f a).run.run s
      | .error p => (.error p, s) := by
  cases x <;> rfl

theorem run_state_bind (x : StateM Session α) (f : α → Errand β) :
    ((liftM x : Errand α) >>= f).run.run s = (f (x.run s).1).run.run (x.run s).2 := rfl

theorem run_note_bind (level : Level) (message : String) (x : Errand α) :
    ((note level message : Errand Unit) >>= fun _ => x).run.run s =
      x.run.run (s.note level message) := rfl

variable (c : Client)

theorem run_ask (p : Prepared α) : (ask c p).run.run s = carried id ((c.run p).run.run s) := by
  change (((c.run p).run.run s).1.mapError Problem.api, ((c.run p).run.run s).2) = _
  generalize (c.run p).run.run s = run
  obtain ⟨e | a, t⟩ := run <;> rfl

/-- A result that is converted on the way is that of the call, converted. -/
theorem run_ask_map (p : Prepared α) (f : α → β) :
    (do return f (← ask c p) : Errand β).run.run s = carried f ((c.run p).run.run s) := by
  rw [run_bind, run_ask]
  generalize (c.run p).run.run s = run
  obtain ⟨e | a, t⟩ := run <;> rfl

/-- What is made of a result is made without a trace. -/
theorem run_map (x : Errand α) (f : α → β) :
    (do return f (← x) : Errand β).run.run s = ((x.run.run s).1.map f, (x.run.run s).2) := by
  rw [run_bind]
  generalize x.run.run s = run
  obtain ⟨p | a, t⟩ := run <;> rfl

section Rows

variable {κ : Type} [Record.WritableKind κ] {schema : Record.Schema κ}

theorem run_askItem (p : Prepared schema.Value) :
    (askItem c p).run.run s = carried Row.toJson ((c.run p).run.run s) :=
  run_ask_map s c p _

theorem run_askItems (p : Prepared (List schema.Value)) :
    (askItems c p).run.run s = carried (·.map Row.toJson) ((c.run p).run.run s) :=
  run_ask_map s c p _

end Rows

end Errand

end EdgeConsole.Console
