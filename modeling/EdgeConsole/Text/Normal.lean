import EdgeConsole.Text.Composition
import EdgeConsole.Text.Mark

/-!
# Normal form

Equal texts can be written in several ways, since marks may be composed with their letter or follow
it in several orders. The normal form of a text is reached in three steps: every character is taken
apart, marks that follow each other are put in the order of their classes, and what composes is
composed from the left.

Main definition: `normalize`.
-/

namespace EdgeConsole.Text

/-- Puts a mark in front of marks, passing those of a lower class. -/
def placeMark (c : Char) : List Char → List Char
  | [] => [c]
  | d :: ds =>
    if 0 < combiningClass d ∧ combiningClass d < combiningClass c then d :: placeMark c ds
    else c :: d :: ds

/-- Puts marks in the order of their classes. Marks of one class keep their order. -/
def orderMarks (cs : List Char) : List Char :=
  cs.foldr placeMark []

/-- Whether a character of the given class can reach the starter past the marks held after it, the
nearest first. -/
def reachesStarter (heldMarks : List Char) (number : Nat) : Bool :=
  match heldMarks with
  | [] => true
  | d :: _ => combiningClass d < number

/-- Composes characters with a starter, past the marks that do not compose with it. -/
def composeAfter (starter : Char) (heldMarks : List Char) : List Char → List Char
  | [] => starter :: heldMarks.reverse
  | c :: cs =>
    let reaches := reachesStarter heldMarks (combiningClass c)
    match if reaches then compose? starter c else none with
    | some composite => composeAfter composite heldMarks cs
    | none =>
      if combiningClass c = 0 then starter :: heldMarks.reverse ++ composeAfter c [] cs
      else composeAfter starter (c :: heldMarks) cs

/-- Composes from the first starter on. -/
def composeMarks : List Char → List Char
  | [] => []
  | c :: cs => if combiningClass c = 0 then composeAfter c [] cs else c :: composeMarks cs

/-- The normal form of a text. -/
def normalize (cs : List Char) : List Char :=
  composeMarks (orderMarks (cs.flatMap decomposeChar))

end EdgeConsole.Text
