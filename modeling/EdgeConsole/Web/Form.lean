import EdgeConsole.Text.Split
import EdgeConsole.Web.Percent

/-!
# Form bodies

The body of a request that carries fields: pairs of a name and a value joined by ampersands. A blank
is written as a plus sign, letters, digits and `*-._` stand, and everything else is percent-encoded.
`encode` writes a list of pairs and `decode?` reads them back in order.
-/

namespace EdgeConsole.Web.Form

/-- A field of a form: its name and its value. -/
abbrev Pair := String × String

/-- Characters that stand for themselves. -/
def isKept (c : Char) : Bool :=
  c.isAlphanum || c == '*' || c == '-' || c == '.' || c == '_'

/-- One character of a name or a value. -/
def encodeChar (c : Char) : List Char :=
  if c = ' ' then ['+'] else percentEncode isKept [c]

/-- A name or a value. -/
def encodeText (s : String) : List Char :=
  s.toList.flatMap encodeChar

/-- A name and its value. -/
def encodePair (p : Pair) : List Char :=
  encodeText p.1 ++ '=' :: encodeText p.2

/-- The characters of a form. -/
def encodeChars : List Pair → List Char
  | [] => []
  | [p] => encodePair p
  | p :: rest => encodePair p ++ '&' :: encodeChars rest

/-- The body that carries the pairs. -/
def encode (pairs : List Pair) : String :=
  String.ofList (encodeChars pairs)

/-! ## Reading -/

/-- A name or a value, if its bytes are well formed. -/
def decodeText? (cs : List Char) : Option String :=
  let blanks := cs.map fun c => if c = '+' then ' ' else c
  (Text.Utf8.decode? (percentDecode blanks)).map String.ofList

/-- A name and the value after the first equals sign. -/
def decodePair? (cs : List Char) : Option Pair :=
  let name := cs.takeWhile (· != '=')
  let value := (cs.dropWhile (· != '=')).drop 1
  match decodeText? name, decodeText? value with
  | some n, some v => some (n, v)
  | _, _ => none

/-- The pairs of a body. Empty stretches between ampersands are no pairs. -/
def decode? (body : String) : Option (List Pair) :=
  ((Text.splitOn '&' body.toList).filter (!·.isEmpty)).mapM decodePair?

end EdgeConsole.Web.Form
