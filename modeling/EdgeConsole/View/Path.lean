import EdgeConsole.Json.Print
import EdgeConsole.Number.Natural
import EdgeConsole.Calendar.Timestamp
import EdgeConsole.Text.Cut
import EdgeConsole.Text.Split

/-!
# Dotted paths

A column of a table names the value that it shows by a path: steps with a dot between them. A step
that is spelled as a natural number of 64 bits goes to an item of a list, any other to a member of
an object; neither goes anywhere else. `cellAt` is the text of the value that a path reaches.

Main definitions: `Step.ofText`, `follow?`, `cell`, `cellAt`.
-/

namespace EdgeConsole.View

/-- One step into a value. -/
inductive Step
  | index (n : Nat)
  | member (name : String)
deriving DecidableEq, Repr

/-- The step that a part of a path spells. -/
def Step.ofText (part : String) : Step :=
  match Number.readNatural UInt64.size part.toList with
  | .ok n => .index n
  | .error _ => .member part

/-- The steps of a path. -/
def steps (path : String) : List Step :=
  (Text.splitOn '.' path.toList).map fun part => .ofText (String.ofList part)

/-- The value one step further. -/
def Step.follow? : Step → Json → Option Json
  | .index n, v => v.item? n
  | .member name, v => v.member? name

/-- The value that a list of steps reaches. -/
def follow? : List Step → Json → Option Json
  | [], v => some v
  | s :: rest, v => (s.follow? v).bind (follow? rest)

/-- What stands in a cell without a value. -/
def absent : String := "-"

/-- The bytes of a timestamp that say its date. -/
def dateWidth : Nat := 10

/-- A text is a timestamp. -/
def isTimestamp (s : String) : Bool :=
  match Calendar.Timestamp.read s with
  | .ok _ => true
  | .error _ => false

/-- A timestamp cut behind its date, if it can be cut there; one that is too short for that is left
as it is. -/
def shortened? (s : String) : Option String :=
  if dateWidth ≤ s.utf8ByteSize then Text.firstBytes? s dateWidth else some s

/-- The text of a value in a table. A timestamp is cut to its date. -/
def cell : Json → String
  | .null => absent
  | .bool b => String.ofList (Json.boolChars b)
  | .number n => n.text
  | .text s =>
    if s = "" then absent
    else if isTimestamp s then (shortened? s).getD s
    else s
  | .list items => "[" ++ toString items.length ++ " items]"
  | .object _ => "[object]"

/-- The text of the value that a path reaches. -/
def cellAt (path : String) (v : Json) : String :=
  match follow? (steps path) v with
  | some reached => cell reached
  | none => absent

end EdgeConsole.View
