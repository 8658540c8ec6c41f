/-!
# UTF-8

The bytes of a text and the way back. One machine reads the bytes: it either stands between two
characters or holds a `Pending` character that still owes continuation bytes. `scan` reports every
character in order and `none` for each longest stretch that can begin no character, so the strict
reading (`decode?`) and the forgiving one (`decodeLossy`) are two views of one result.
-/

namespace EdgeConsole.Text.Utf8

/-- The bytes of a list of characters. -/
def encode (cs : List Char) : List UInt8 :=
  cs.flatMap String.utf8EncodeChar

/-- A character whose first byte has been read: the bytes still owed, the bounds of the next one,
and the code point read so far. -/
structure Pending where
  owed : Nat
  low : Nat
  high : Nat
  code : Nat
deriving DecidableEq, Repr

/-- What a byte means between two characters. -/
inductive Start
  | whole (c : Char)
  | opened (p : Pending)
  | invalid
deriving DecidableEq, Repr

/-- Reads a byte between two characters. The bounds on the byte after it exclude overlong forms,
surrogates and code points above the last plane. -/
def start (b : Nat) : Start :=
  if b < 0x80 then .whole (Char.ofNat b)
  else if b < 0xC2 then .invalid
  else if b < 0xE0 then .opened ⟨1, 0x80, 0xBF, b - 0xC0⟩
  else if b < 0xF0 then
    .opened ⟨2, if b = 0xE0 then 0xA0 else 0x80, if b = 0xED then 0x9F else 0xBF, b - 0xE0⟩
  else if b < 0xF5 then
    .opened ⟨3, if b = 0xF0 then 0x90 else 0x80, if b = 0xF4 then 0x8F else 0xBF, b - 0xF0⟩
  else .invalid

/-- Reads all bytes. A byte that cannot continue the pending character ends it as undecodable and
is read again as a first byte. -/
def scan : Option Pending → List UInt8 → List (Option Char)
  | none, [] => []
  | some _, [] => [none]
  | none, b :: bs =>
    match start b.toNat with
    | .whole c => some c :: scan none bs
    | .opened p => scan (some p) bs
    | .invalid => none :: scan none bs
  | some p, b :: bs =>
    if p.low ≤ b.toNat ∧ b.toNat ≤ p.high then
      let code := p.code * 64 + (b.toNat - 0x80)
      if p.owed = 1 then some (Char.ofNat code) :: scan none bs
      else scan (some ⟨p.owed - 1, 0x80, 0xBF, code⟩) bs
    else
      none :: match start b.toNat with
        | .whole c => some c :: scan none bs
        | .opened q => scan (some q) bs
        | .invalid => none :: scan none bs

/-- The characters of well-formed bytes. -/
def decode? (bs : List UInt8) : Option (List Char) :=
  (scan none bs).mapM id

/-- The characters of any bytes: each undecodable stretch becomes the replacement character. -/
def decodeLossy (bs : List UInt8) : List Char :=
  (scan none bs).map (·.getD '\ufffd')

end EdgeConsole.Text.Utf8
