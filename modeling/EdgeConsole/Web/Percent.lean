import EdgeConsole.Text.Utf8

/-!
# Percent encoding

A byte that may not stand in a place of a URL is written as a percent sign and two hexadecimal
digits. What may stand differs from place to place, so encoding takes the set of kept characters;
the rest goes byte by byte through UTF-8. Decoding is one function for all places: it reads each
percent sign that two hexadecimal digits follow and leaves every other character as it is.

`escape` is the encoding of identifiers that become one segment of an API path: letters, digits and
`-_.~` are kept.
-/

namespace EdgeConsole.Web

/-- One hexadecimal digit in upper case. -/
def hexDigitUpper (n : Nat) : Char :=
  if n < 10 then Char.ofNat (48 + n) else Char.ofNat (55 + n)

/-- A byte as a percent sign and two digits. -/
def percentByte (b : UInt8) : List Char :=
  ['%', hexDigitUpper (b.toNat / 16), hexDigitUpper (b.toNat % 16)]

/-- Writes the characters outside `kept` byte by byte. -/
def percentEncode (kept : Char → Bool) (cs : List Char) : List Char :=
  cs.flatMap fun c => if kept c then [c] else (String.utf8EncodeChar c).flatMap percentByte

/-- The value of a hexadecimal digit of either case. -/
def hexDigit? (c : Char) : Option Nat :=
  let n := c.toNat
  if 48 ≤ n ∧ n ≤ 57 then some (n - 48)
  else if 65 ≤ n ∧ n ≤ 70 then some (n - 55)
  else if 97 ≤ n ∧ n ≤ 102 then some (n - 87)
  else none

/-- The bytes of a text with its percent escapes undone. -/
def percentDecode : List Char → List UInt8
  | [] => []
  | '%' :: a :: b :: rest =>
    match hexDigit? a, hexDigit? b with
    | some x, some y => UInt8.ofNat (x * 16 + y) :: percentDecode rest
    | _, _ => String.utf8EncodeChar '%' ++ percentDecode (a :: b :: rest)
  | c :: rest => String.utf8EncodeChar c ++ percentDecode rest

/-- Letters, digits and the four marks that need no escape anywhere in a URL. -/
def isUnreserved (c : Char) : Bool :=
  c.isAlphanum || c == '-' || c == '_' || c == '.' || c == '~'

/-- An identifier as one segment of a path. -/
def escape (s : String) : String :=
  String.ofList (percentEncode isUnreserved s.toList)

/-- The text that an escaped identifier stands for, if its bytes are well formed. -/
def unescape? (s : String) : Option String :=
  (Text.Utf8.decode? (percentDecode s.toList)).map String.ofList

end EdgeConsole.Web
