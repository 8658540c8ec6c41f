import EdgeConsole.Json.Basic

/-!
# Printing JSON

Two layouts of a value: `compact`, without any blank, and `pretty`, with one item or member a line,
indented by two spaces a level. Both write text the same way: the quote, the backslash and the
control characters below the space are escaped, everything else stands as it is.
-/

namespace EdgeConsole.Json

/-- One hexadecimal digit in lower case. -/
def hexDigitLower (n : Nat) : Char :=
  if n < 10 then Char.ofNat (48 + n) else Char.ofNat (87 + n)

/-- A character as it stands inside a JSON string. -/
def escapeChar (c : Char) : List Char :=
  if c = '"' then ['\\', '"']
  else if c = '\\' then ['\\', '\\']
  else if c = '\n' then ['\\', 'n']
  else if c = '\r' then ['\\', 'r']
  else if c = '\t' then ['\\', 't']
  else if c = '\x08' then ['\\', 'b']
  else if c = '\x0c' then ['\\', 'f']
  else if c.toNat < 0x20 then
    ['\\', 'u', '0', '0', hexDigitLower (c.toNat / 16), hexDigitLower (c.toNat % 16)]
  else [c]

/-- A JSON string. -/
def textChars (s : String) : List Char :=
  '"' :: s.toList.flatMap escapeChar ++ ['"']

/-- The text of a truth value. -/
def boolChars (b : Bool) : List Char :=
  if b then ['t', 'r', 'u', 'e'] else ['f', 'a', 'l', 's', 'e']

/-! ## Without blanks -/

mutual

/-- The characters of a value without any blank. -/
def compactChars : Json → List Char
  | .null => ['n', 'u', 'l', 'l']
  | .bool b => boolChars b
  | .number n => n.chars .plus
  | .text s => textChars s
  | .list items => '[' :: compactItems items ++ [']']
  | .object members => '\x7b' :: compactMembers members ++ ['\x7d']

/-- The items of a list between commas. -/
def compactItems : List Json → List Char
  | [] => []
  | [v] => compactChars v
  | v :: rest => compactChars v ++ ',' :: compactItems rest

/-- The members of an object between commas. -/
def compactMembers : List (String × Json) → List Char
  | [] => []
  | [(k, v)] => textChars k ++ ':' :: compactChars v
  | (k, v) :: rest => textChars k ++ ':' :: compactChars v ++ ',' :: compactMembers rest

end

/-- The value without any blank. -/
def compact (v : Json) : String :=
  String.ofList v.compactChars

/-! ## A line for each item -/

/-- A line break followed by the blanks of a nesting level. -/
def newline (level : Nat) : List Char :=
  '\n' :: List.replicate (2 * level) ' '

mutual

/-- The characters of a value at a nesting level. An empty list or object stays on its line. -/
def prettyChars (level : Nat) : Json → List Char
  | .null => ['n', 'u', 'l', 'l']
  | .bool b => boolChars b
  | .number n => n.chars .plus
  | .text s => textChars s
  | .list [] => ['[', ']']
  | .list items => '[' :: prettyItems (level + 1) items ++ newline level ++ [']']
  | .object [] => ['\x7b', '\x7d']
  | .object members => '\x7b' :: prettyMembers (level + 1) members ++ newline level ++ ['\x7d']

/-- Items, each on a line of its own. -/
def prettyItems (level : Nat) : List Json → List Char
  | [] => []
  | [v] => newline level ++ prettyChars level v
  | v :: rest => newline level ++ prettyChars level v ++ ',' :: prettyItems level rest

/-- Members, each on a line of its own. -/
def prettyMembers (level : Nat) : List (String × Json) → List Char
  | [] => []
  | [(k, v)] => newline level ++ textChars k ++ ':' :: ' ' :: prettyChars level v
  | (k, v) :: rest =>
    newline level ++ textChars k ++ ':' :: ' ' :: prettyChars level v ++
      ',' :: prettyMembers level rest

end

/-- The value with one item or member a line. -/
def pretty (v : Json) : String :=
  String.ofList (v.prettyChars 0)

end EdgeConsole.Json
