import EdgeConsole.Text.Split
import EdgeConsole.Web.Domain.Label
import EdgeConsole.Web.Percent

/-!
# Hosts

The host of a URL: a domain name, or an address of version 4 or 6 of the Internet protocol. The
rules are those of the URL standard. In a URL of a web scheme a name is percent-decoded, brought to
its plain form, and refused if it is no domain name; a name whose last label is a number has to be
an address. In any other URL a host is kept as it is written.
-/

namespace EdgeConsole.Web.Url

/-- Why a text is not a URL. -/
inductive Fault
  | emptyHost
  | invalidName
  | invalidPort
  | invalidAddress4
  | invalidAddress6
  | invalidHostCharacter
  | noScheme
deriving DecidableEq, Repr

/-- The wording of a fault. -/
def Fault.message : Fault → String
  | .emptyHost => "empty host"
  | .invalidName => "invalid international domain name"
  | .invalidPort => "invalid port number"
  | .invalidAddress4 => "invalid IPv4 address"
  | .invalidAddress6 => "invalid IPv6 address"
  | .invalidHostCharacter => "invalid domain character"
  | .noScheme => "relative URL without a base"

/-- The host of a URL. -/
inductive Host
  | name (s : List Char)
  | address4 (n : Nat)
  | address6 (pieces : List Nat)
deriving DecidableEq, Repr

/-! ## Version 4 -/

/-- The digits of a number in an address and the base they are read in. -/
def numberBase : List Char → List Char × Nat
  | '0' :: 'x' :: cs => (cs, 16)
  | '0' :: 'X' :: cs => (cs, 16)
  | '0' :: c :: cs => (c :: cs, 8)
  | cs => (cs, 10)

/-- The value of digits in a base, if all of them are. -/
def valueIn? (base : Nat) (cs : List Char) : Option Nat :=
  cs.foldlM (fun n c =>
    match hexDigit? c with
    | some d => if d < base then some (n * base + d) else none
    | none => none) 0

/-- One number of an address. -/
def number4? (cs : List Char) : Option Nat :=
  if cs.isEmpty then none
  else
    let (digits, base) := numberBase cs
    valueIn? base digits

/-- The parts of a name without the empty one after a final point. -/
def nameParts (cs : List Char) : List (List Char) :=
  let parts := Text.splitOn '.' cs
  if 1 < parts.length ∧ parts.getLast? = some [] then parts.dropLast else parts

/-- The last label is a number, so the name has to be an address. -/
def endsInNumber (cs : List Char) : Bool :=
  match (nameParts cs).getLast? with
  | none => false
  | some last => !last.isEmpty && (last.all Char.isDigit || (number4? last).isSome)

/-- The address of up to four numbers, the last of which fills the bytes that are left. -/
def address4? (cs : List Char) : Option Nat := do
  let numbers ← (nameParts cs).mapM number4?
  let last ← numbers.getLast?
  let front := numbers.dropLast
  let room := Nat.pow 256 (4 - front.length)
  if 3 < front.length ∨ front.any (255 < ·) ∨ room ≤ last then none
  else some (front.foldl (fun value n => value * 256 + n) 0 * room + last)

/-! ## Version 6 -/

/-- One of the four decimal numbers at the end of an address. -/
def dottedByte? (cs : List Char) : Option Nat :=
  if cs.isEmpty ∨ !cs.all Char.isDigit ∨ (1 < cs.length ∧ cs.head? = some '0') then none
  else (valueIn? 10 cs).filter (· ≤ 255)

/-- Two pieces written as four decimal numbers. -/
def dottedPieces? (cs : List Char) : Option (List Nat) := do
  let bytes ← (Text.splitOn '.' cs).mapM dottedByte?
  match bytes with
  | [a, b, c, d] => some [a * 256 + b, c * 256 + d]
  | _ => none

/-- Reads pieces from a place where one may begin. `before` holds the pieces up to the gap, if one
has been passed, and `pieces` those after it. -/
def pieces6? (before : Option (List Nat)) (pieces : List Nat) :
    Nat → List Char → Option (Option (List Nat) × List Nat)
  | 0, _ => none
  | _ + 1, [] => some (before, pieces)
  | fuel + 1, c :: cs =>
    let seen := (before.map (·.length + 1)).getD 0 + pieces.length
    if 8 ≤ seen then none
    else if c = ':' then
      match before with
      | some _ => none
      | none => pieces6? (some pieces) [] fuel cs
    else
      let run := (c :: cs).takeWhile fun c => (hexDigit? c).isSome
      let digits := run.take 4
      let rest := (c :: cs).drop digits.length
      match rest, valueIn? 16 digits with
      | '.' :: _, _ =>
        if digits.isEmpty ∨ 6 < seen then none
        else (dottedPieces? (c :: cs)).map fun more => (before, pieces ++ more)
      | _, none => none
      | [], some n => if digits.isEmpty then none else some (before, pieces ++ [n])
      | ':' :: after, some n =>
        if digits.isEmpty ∨ after.isEmpty then none else pieces6? before (pieces ++ [n]) fuel after
      | _, _ => none

/-- The eight pieces of an address; one gap may stand for as many zeros as are missing. -/
def address6? (cs : List Char) : Option (List Nat) :=
  let start := match cs with
    | ':' :: ':' :: rest => some (some [], rest)
    | ':' :: _ => none
    | cs => some (none, cs)
  match start with
  | none => none
  | some (before, cs) =>
    match pieces6? before [] (cs.length + 1) cs with
    | none => none
    | some (none, pieces) => if pieces.length = 8 then some pieces else none
    | some (some front, back) =>
      if front.length + back.length < 8 then
        some (front ++ List.replicate (8 - front.length - back.length) 0 ++ back)
      else none

/-! ## Hosts -/

/-- A host between brackets. -/
def bracketed (cs : List Char) : Except Fault Host :=
  match cs.reverse with
  | ']' :: inner =>
    match address6? inner.reverse with
    | some pieces => .ok (.address6 pieces)
    | none => .error .invalidAddress6
  | _ => .error .invalidAddress6

/-- The host of a URL of a web scheme or of a file. -/
def Host.ofName (cs : List Char) : Except Fault Host :=
  match cs with
  | '[' :: rest => bracketed rest
  | cs =>
    match Domain.plainName? (Text.Utf8.decodeLossy (percentDecode cs)) with
    | none => .error .invalidName
    | some [] => .error .emptyHost
    | some plain =>
      if endsInNumber plain then
        match address4? plain with
        | some n => .ok (.address4 n)
        | none => .error .invalidAddress4
      else .ok (.name plain)

/-- Characters that no host holds as they are. -/
def isForbiddenRaw (c : Char) : Bool :=
  c == '\x00' || c == '\t' || c == '\n' || c == '\r' || " #/:<>?@[\\]^|".toList.contains c

/-- The host of any other URL. -/
def Host.ofRaw (cs : List Char) : Except Fault Host :=
  match cs with
  | '[' :: rest => bracketed rest
  | cs =>
    if cs.any isForbiddenRaw then .error .invalidHostCharacter
    else .ok (.name (percentEncode (fun c => 0x20 ≤ c.toNat && c.toNat < 0x7F) cs))

end EdgeConsole.Web.Url
