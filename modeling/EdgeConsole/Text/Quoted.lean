import EdgeConsole.Text.Printable

/-!
# Quoted text in messages

A message that names a piece of text shows it between double quotes, with every character that
would be invisible or ambiguous there written as an escape: the quote and the backslash, the
common controls by letter, and other unprintable characters by code point.
-/

namespace EdgeConsole.Text

/-- A code point in lower-case hexadecimal without leading zeros. -/
def hexLower (n : Nat) : List Char :=
  Nat.toDigits 16 n

/-- One character as it stands inside quotes. -/
def quoteChar (c : Char) : List Char :=
  match c with
  | '"' => ['\\', '"']
  | '\\' => ['\\', '\\']
  | '\n' => ['\\', 'n']
  | '\r' => ['\\', 'r']
  | '\t' => ['\\', 't']
  | '\x00' => ['\\', '0']
  | c =>
    if isGraphemeExtend c || isUnprintable c then
      ['\\', 'u', '\x7b'] ++ hexLower c.toNat ++ ['\x7d']
    else [c]

/-- The text between double quotes, escaped. -/
def quote (s : String) : String :=
  String.ofList ('"' :: s.toList.flatMap quoteChar ++ ['"'])

end EdgeConsole.Text
