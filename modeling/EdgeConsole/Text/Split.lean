/-!
# Splitting

Cutting a text at separators. Every separator ends one part and begins the next, so there is always
one part more than there are separators, and parts may be empty.
-/

namespace EdgeConsole.Text

/-- The parts between the characters that satisfy `p`. -/
def splitWhere (p : Char → Bool) : List Char → List (List Char)
  | [] => [[]]
  | c :: cs =>
    if p c then [] :: splitWhere p cs
    else
      match splitWhere p cs with
      | [] => [[c]]
      | part :: parts => (c :: part) :: parts

/-- The parts between occurrences of a character. -/
def splitOn (sep : Char) (cs : List Char) : List (List Char) :=
  splitWhere (· == sep) cs

/-- The parts are those of the standard library. -/
theorem splitWhere_eq_splitOnP (p : Char → Bool) (cs : List Char) :
    splitWhere p cs = cs.splitOnP p := by
  induction cs with
  | nil => rfl
  | cons c cs ih =>
    rw [splitWhere, ih, List.splitOnP_cons_eq_if_modifyHead]
    cases hparts : cs.splitOnP p with
    | nil => exact absurd hparts (List.splitOnP_ne_nil p cs)
    | cons part parts => rfl

theorem splitOn_eq_splitOn (sep : Char) (cs : List Char) : splitOn sep cs = cs.splitOn sep := by
  rw [splitOn, splitWhere_eq_splitOnP, List.splitOn_eq_splitOnP]

/-- A text without separators is its only part. -/
theorem splitWhere_of_none {p : Char → Bool} {cs : List Char} (h : ∀ c ∈ cs, p c = false) :
    splitWhere p cs = [cs] := by
  rw [splitWhere_eq_splitOnP, List.splitOnP_eq_singleton h]

/-- A separator parts what stands on its two sides, whatever that is. -/
theorem splitWhere_append_sep {p : Char → Bool} {sep : Char} (hs : p sep = true)
    (cs rest : List Char) :
    splitWhere p (cs ++ sep :: rest) = splitWhere p cs ++ splitWhere p rest := by
  simp only [splitWhere_eq_splitOnP, List.splitOnP_append_cons cs rest hs]

/-- The part in front of a separator ends there. -/
theorem splitWhere_append {p : Char → Bool} {cs : List Char} (h : ∀ c ∈ cs, p c = false)
    {sep : Char} (hs : p sep = true) (rest : List Char) :
    splitWhere p (cs ++ sep :: rest) = cs :: splitWhere p rest := by
  rw [splitWhere_append_sep hs, splitWhere_of_none h, List.singleton_append]

end EdgeConsole.Text
