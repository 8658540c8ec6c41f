/-!
# Outcomes of readers

When the parts of a computation that can fail are put together, the whole succeeds exactly if the
parts do. A proof about a reader that succeeded takes it apart with these equivalences.
-/

namespace EdgeConsole.Outcome

variable {ε α β : Type}

/-- A computation with two steps succeeds when both do. -/
theorem bind_eq_ok_iff {x : Except ε α} {f : α → Except ε β} {b : β} :
    (x >>= f) = .ok b ↔ ∃ a, x = .ok a ∧ f a = .ok b := by
  cases x with
  | error e => simp [bind, Except.bind]
  | ok a => simp [bind, Except.bind]

/-- What is made of a result has succeeded when the result was there. -/
theorem map_eq_ok_iff {x : Except ε α} {f : α → β} {b : β} :
    x.map f = .ok b ↔ ∃ a, x = .ok a ∧ f a = b := by
  cases x with
  | error e => simp [Except.map]
  | ok a => simp [Except.map]

end EdgeConsole.Outcome
