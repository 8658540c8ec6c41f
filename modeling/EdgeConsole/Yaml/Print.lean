import EdgeConsole.Yaml.Scalar
import EdgeConsole.Json.Print

/-!
# Printing YAML

A value in block layout: an item of a list behind a dash, a member of an object behind its key, and
what belongs to them two columns further in. A list that is the value of a member stays in the
column of its key. A key that takes more than a line's start, because it has a line break or is too
long, is marked as a key, and its value stands on a line of its own behind a colon.

Main definition: `print`.
-/

namespace EdgeConsole.Yaml

/-- The columns by which a level lies further in than the one that holds it. -/
def indentStep : Nat := 2

/-- The greatest size in bytes of a key that stands in front of its value. -/
def keyLimit : Nat := 128

/-- A key can stand in front of its value on one line. -/
def isSimpleKey (key : String) : Bool :=
  !key.toList.any isBreak && key.utf8ByteSize ≤ keyLimit

/-- A key on its line, without the break that would end it. -/
def simpleKeyChars (key : String) : List Char :=
  (scalarChars 0 key).dropLast

/-- The start of a part at the given indentation; the first part stands where its holder left off.
-/
def start (indent : Nat) (first : Bool) : List Char :=
  if first then [] else spaces indent

/-- A value whose parts stand in no line of their own, with the break that ends it. -/
def leaf? (indent : Nat) : Json → Option (List Char)
  | .null => some ['n', 'u', 'l', 'l', '\n']
  | .bool b => some (Json.boolChars b ++ ['\n'])
  | .number n => some (n.chars .bare ++ ['\n'])
  | .text s => some (scalarChars indent s)
  | .list [] => some ['[', ']', '\n']
  | .object [] => some ['\x7b', '\x7d', '\n']
  | _ => none

mutual

/-- A value behind a mark that ends in front of the column `indent`. -/
def inlineChars (indent : Nat) : Json → List Char
  | .list (v :: items) => itemsChars indent true (v :: items)
  | .object (m :: members) => membersChars indent true (m :: members)
  | v => (leaf? indent v).getD []

/-- The items of a list in the column `indent`. -/
def itemsChars (indent : Nat) (first : Bool) : List Json → List Char
  | [] => []
  | v :: rest =>
    start indent first ++ '-' :: ' ' :: inlineChars (indent + indentStep) v ++
      itemsChars indent false rest

/-- The members of an object in the column `indent`. -/
def membersChars (indent : Nat) (first : Bool) : List (String × Json) → List Char
  | [] => []
  | (key, v) :: rest =>
    let lines :=
      if isSimpleKey key then simpleKeyChars key ++ ':' :: memberChars indent v
      else
        '?' :: ' ' :: scalarChars (indent + indentStep) key ++ spaces indent ++ ':' :: ' ' ::
          inlineChars (indent + indentStep) v
    start indent first ++ lines ++ membersChars indent false rest

/-- The value of a member whose key stands in the column `indent`. -/
def memberChars (indent : Nat) : Json → List Char
  | .list (v :: items) => '\n' :: itemsChars indent false (v :: items)
  | .object (m :: members) => '\n' :: membersChars (indent + indentStep) false (m :: members)
  | v => ' ' :: (leaf? (indent + indentStep) v).getD []

end

/-- A value at the start of a text: items and members begin in the first column. -/
def printChars : Json → List Char
  | .list (v :: items) => itemsChars 0 true (v :: items)
  | .object (m :: members) => membersChars 0 true (m :: members)
  | v => (leaf? indentStep v).getD []

/-- The value as a text. -/
def print (v : Json) : String :=
  String.ofList (printChars v)

end EdgeConsole.Yaml
