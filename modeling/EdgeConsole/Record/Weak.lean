import EdgeConsole.Json.Reading
import EdgeConsole.Number.Natural
import EdgeConsole.Text.Blank

/-!
# Weakly typed scalars

The service spells the same value in several ways: a number may arrive as a string, a truth value as
a number, and anything absent as null or a blank string. The conversions here take a value of any
shape to the scalar it means, to nothing where it means absence, or to an error that names it.
-/

namespace EdgeConsole.Record.Weak

open Json (DataError)

/-- The number of 32 bits that a JSON number is, if it is one. An integer out of range is tried once
more as floating point, which admits no integer that was refused. -/
def wordOf? (n : Json.Number) : Option UInt32 :=
  let exact := match n with
    | .integer i => if 0 ≤ i ∧ i < UInt32.size then some i.toNat else none
    | .float _ => none
  let rounded := (n.toFloat?.bind (·.toNat?)).filter (· < UInt32.size)
  (exact <|> rounded).map UInt32.ofNat

/-- A number of 32 bits: a number, its decimal text, or a truth value standing for 1 or 0. -/
def number : Json → Except DataError (Option UInt32)
  | .null => .ok none
  | .number n =>
    match wordOf? n with
    | some w => .ok (some w)
    | none => .error (.notWord n)
  | .text s =>
    let plain := Text.trim s
    if plain = "" then .ok none
    else
      match Number.readWord32 plain with
      | .ok w => .ok (some w)
      | .error _ => .error (.textNotWord s)
  | .bool b => .ok (some (if b then 1 else 0))
  | v => .error (.notInteger v)

/-- A number that is not zero stands for true. -/
def numberIsTrue : Json.Number → Bool
  | .integer i => i != 0
  | .float x => !x.isZero

/-- A truth value: itself, a number, or one of the usual words in any letter case. -/
def flag : Json → Except DataError (Option Bool)
  | .null => .ok none
  | .bool b => .ok (some b)
  | .number n => .ok (some (numberIsTrue n))
  | .text s =>
    let word := (Text.trim s).map Char.toLower
    if word = "" then .ok none
    else if word = "1" ∨ word = "t" ∨ word = "true" then .ok (some true)
    else if word = "0" ∨ word = "f" ∨ word = "false" then .ok (some false)
    else .error (.textNotBoolean s)
  | v => .error (.notBoolean v)

/-- A text: itself, or the text of a number or a truth value. -/
def text : Json → Except DataError (Option String)
  | .null => .ok none
  | .text s => .ok (some s)
  | .number n => .ok (some n.text)
  | .bool b => .ok (some (String.ofList (Json.boolChars b)))
  | v => .error (.notText v)

/-- Reads a value of any shape and converts it. -/
def read (convert : Json → Except DataError α) (depth : Nat) (o : Json.Outline) :
    Except Json.ReadError α := do
  let v ← o.readValue depth
  match convert v with
  | .ok a => .ok a
  | .error e => .error (.data e)

end EdgeConsole.Record.Weak
