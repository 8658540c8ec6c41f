import EdgeConsole.Number.Binary64
import EdgeConsole.Json.Number

/-!
# YAML scalars

How a text is written as a YAML scalar. Three questions decide its style:

* `isOtherKind`: would the bare text be read as something else, such as a number or null?
* `mayBePlain`, `mayBeSingle`, `mayBeLiteral`: which styles can hold its characters?
* does it have line feeds? Then it is a literal block if it can be.

Main definitions: `Style`, `styleOf`, `scalarChars`.
-/

namespace EdgeConsole.Yaml

/-! ## Texts that look like other values -/

/-- A digit of the given base. -/
def isDigitOf (base : Nat) (c : Char) : Bool :=
  if base = 16 then c.isDigit || ('a' ≤ c && c ≤ 'f') || ('A' ≤ c && c ≤ 'F')
  else '0' ≤ c && c.toNat < '0'.toNat + base

/-- The value of a digit. -/
def digitOf (c : Char) : Nat :=
  if c.isDigit then c.toNat - '0'.toNat else c.toLower.toNat - 'a'.toNat + 10

/-- The natural number below a bound that digits of a base spell. -/
def isNaturalBelow (bound base : Nat) (cs : List Char) : Bool :=
  !cs.isEmpty && cs.all (isDigitOf base) && cs.foldl (fun n c => n * base + digitOf c) 0 < bound

/-- An integer of 128 bits in base 2, 8 or 16, after the mark of its base. -/
def isBasedInteger (cs : List Char) : Bool :=
  let (bound, digits) := match cs with
    | '-' :: rest => (Nat.pow 2 127 + 1, rest)
    | '+' :: rest => (Nat.pow 2 128, rest)
    | _ => (Nat.pow 2 128, cs)
  match digits with
  | '0' :: 'x' :: rest => isNaturalBelow bound 16 rest
  | '0' :: 'o' :: rest => isNaturalBelow bound 8 rest
  | '0' :: 'b' :: rest => isNaturalBelow bound 2 rest
  | _ => false

/-- Digits behind a leading zero, with or without a sign. -/
def isZeroLed (cs : List Char) : Bool :=
  let digits := match cs with
    | '-' :: rest => rest
    | '+' :: rest => rest
    | _ => cs
  match digits with
  | '0' :: c :: rest => (c :: rest).all Char.isDigit
  | _ => false

/-- A decimal literal without its sign: digits with at most one point among them, and perhaps an
exponent. -/
def decimal? (cs : List Char) : Option Json.Literal :=
  let whole := cs.takeWhile Char.isDigit
  let (fraction, rest) := match cs.dropWhile Char.isDigit with
    | '.' :: rest => (some (rest.takeWhile Char.isDigit), rest.dropWhile Char.isDigit)
    | rest => (none, rest)
  if whole.isEmpty && (fraction.getD []).isEmpty then none
  else
    match rest with
    | [] => some ⟨false, whole, fraction, none⟩
    | mark :: rest =>
      if mark == 'e' || mark == 'E' then
        let (negative, digits) := match rest with
          | '-' :: rest => (true, rest)
          | '+' :: rest => (false, rest)
          | _ => (false, rest)
        if !digits.isEmpty && digits.all Char.isDigit then
          some ⟨false, whole, fraction, some (negative, digits)⟩
        else none
      else none

/-- The number of digits in front of the point of the greatest finite number. -/
def greatestDigits : Int := 309

/-- A decimal literal is within the range of floating point. -/
def isFinite (l : Json.Literal) : Bool :=
  let digits := (l.whole ++ l.fraction.getD []).dropWhile (· == '0')
  let e : Int := l.exponentValue - (l.fraction.getD []).length
  let size := digits.length + e
  if digits.isEmpty then true
  else if size = greatestDigits then
    let num := Json.digitsValue digits * Nat.pow 10 e.toNat
    (Number.Binary64.ofRatio? false num (Nat.pow 10 (-e).toNat)).isSome
  else size < greatestDigits

/-- A floating-point number, infinity, or the value that is no number. -/
def isFloat (cs : List Char) : Bool :=
  let unsigned := match cs with
    | '+' :: '+' :: _ => []
    | '+' :: '-' :: _ => []
    | '+' :: rest => rest
    | '-' :: rest => rest
    | _ => cs
  [".nan", ".NaN", ".NAN"].contains (String.ofList cs) ||
    [".inf", ".Inf", ".INF"].contains (String.ofList unsigned) ||
    (decimal? unsigned).any isFinite

/-- Null and the truth values. -/
def isKeyword (s : String) : Bool :=
  ["null", "Null", "NULL", "~", "true", "True", "TRUE", "false", "False", "FALSE"].contains s

/-- The bare text would not be read as a text. -/
def isOtherKind (s : String) : Bool :=
  s == "" || isKeyword s || isBasedInteger s.toList || isZeroLed s.toList || isFloat s.toList

/-! ## Characters that styles can hold -/

/-- A line break, of which YAML has five. -/
def isBreak (c : Char) : Bool :=
  c == '\n' || c == '\r' || c == '\x85' || c == '\u2028' || c == '\u2029'

/-- Characters that may stand as themselves. -/
def isPrintable (c : Char) : Bool :=
  let n := c.toNat
  n == 0xA || (0x20 ≤ n && n ≤ 0x7E) || (0xA0 ≤ n && n ≤ 0xFFFD && n != 0xFEFF) || 0x10000 ≤ n

/-- What may stand next to a mark that ends a word: nothing, a blank, a break or the character zero.
-/
def isWordEnd : Option Char → Bool
  | none => true
  | some c => c == ' ' || c == '\t' || c == '\x00' || isBreak c

/-- Two neighbouring characters satisfy `p` and `q`. -/
def hasPair (p q : Char → Bool) (cs : List Char) : Bool :=
  (cs.zip cs.tail).any fun (a, b) => p a && q b

/-- A colon that ends a word or a number sign that begins one; `before` is the character in front.
-/
def hasInnerMark (before : Option Char) : List Char → Bool
  | [] => false
  | c :: rest =>
    (c == ':' && isWordEnd rest.head?) || (c == '#' && isWordEnd before) ||
      hasInnerMark (some c) rest

/-- Marks that no plain text begins with. -/
def leadingMarks : List Char :=
  ['#', ',', '[', ']', '\x7b', '\x7d', '&', '*', '!', '|', '>', '\'', '"', '%', '@', '\x60']

/-- The text begins with something that has a meaning of its own. -/
def hasLeadingMark (cs : List Char) : Bool :=
  ['-', '-', '-'].isPrefixOf cs || ['.', '.', '.'].isPrefixOf cs ||
    match cs with
    | [] => false
    | c :: rest => leadingMarks.contains c || ((c == '?' || c == '-') && isWordEnd rest.head?)

def isSpace (c : Char) : Bool := c == ' '

/-- All characters may stand as themselves, and no line ends with a space. -/
def isTidy (cs : List Char) : Bool :=
  cs.all isPrintable && !hasPair isSpace isBreak cs

/-- The text can stand without quotes. -/
def mayBePlain (cs : List Char) : Bool :=
  cs.all isPrintable && !cs.any isBreak && cs.head? != some ' ' && cs.getLast? != some ' ' &&
    !hasLeadingMark cs && !hasInnerMark none cs

/-- The text can stand between single quotes. -/
def mayBeSingle (cs : List Char) : Bool :=
  isTidy cs && !hasPair isBreak isSpace cs

/-- The text can stand as a literal block. -/
def mayBeLiteral (cs : List Char) : Bool :=
  isTidy cs && cs.getLast? != some ' '

/-! ## Styles -/

/-- The ways of writing a text. -/
inductive Style
  | plain
  | single
  | double
  | literal
deriving DecidableEq, Repr

/-- The style in which a text is written. -/
def styleOf (s : String) : Style :=
  let cs := s.toList
  if cs.contains '\n' then if mayBeLiteral cs then .literal else .double
  else if !isOtherKind s && mayBePlain cs then .plain
  else if mayBeSingle cs then .single
  else .double

/-- The spaces of an indentation. -/
def spaces (indent : Nat) : List Char := List.replicate indent ' '

/-- A text between single quotes, where a quote is written twice and what follows a break is
indented. -/
def singleChars (indent : Nat) (afterBreak : Bool) : List Char → List Char
  | [] => if afterBreak then spaces indent else []
  | c :: rest =>
    if isBreak c then c :: singleChars indent true rest
    else
      (if afterBreak then spaces indent else []) ++ (if c == '\'' then ['\'', '\''] else [c]) ++
        singleChars indent false rest

/-- The letter that stands for a character behind a backslash. -/
def shortEscape? (c : Char) : Option Char :=
  [('\x00', '0'), ('\x07', 'a'), ('\x08', 'b'), ('\t', 't'), ('\n', 'n'), ('\x0b', 'v'),
   ('\x0c', 'f'), ('\r', 'r'), ('\x1b', 'e'), ('"', '"'), ('\\', '\\'), ('\x85', 'N'),
   ('\u2028', 'L'), ('\u2029', 'P')].lookup c

/-- A number in a fixed number of hexadecimal digits. -/
def hexChars (width n : Nat) : List Char :=
  let digits := (Nat.toDigits 16 n).map Char.toUpper
  List.replicate (width - digits.length) '0' ++ digits

/-- One character between double quotes. -/
def doubleChar (c : Char) : List Char :=
  match shortEscape? c with
  | some e => ['\\', e]
  | none =>
    if isPrintable c then [c]
    else if c.toNat ≤ 0xFF then '\\' :: 'x' :: hexChars 2 c.toNat
    else '\\' :: 'u' :: hexChars 4 c.toNat

/-- The body of a literal block: what follows a break is indented. -/
def literalChars (indent : Nat) (afterBreak : Bool) : List Char → List Char
  | [] => []
  | c :: rest =>
    if isBreak c then c :: literalChars indent true rest
    else (if afterBreak then spaces indent else []) ++ c :: literalChars indent false rest

/-- A text ends with a break. -/
def endsWithBreak (cs : List Char) : Bool := cs.getLast?.any isBreak

/-- The signs in the head of a literal block: how far it is indented, if the text does not show it,
and what becomes of the breaks at its end. -/
def literalHead (cs : List Char) : List Char :=
  (if cs.head?.any (fun c => c == ' ' || isBreak c) then ['2'] else []) ++
    (if !endsWithBreak cs then ['-']
     else if cs.dropLast.isEmpty || endsWithBreak cs.dropLast then ['+']
     else [])

/-- A text in its style with the line break that ends it; lines after the first are indented. -/
def scalarChars (indent : Nat) (s : String) : List Char :=
  let cs := s.toList
  match styleOf s with
  | .plain => cs ++ ['\n']
  | .single => '\'' :: singleChars indent false cs ++ ['\'', '\n']
  | .double => '"' :: cs.flatMap doubleChar ++ ['"', '\n']
  | .literal =>
    '|' :: literalHead cs ++ '\n' :: literalChars indent true cs ++
      (if endsWithBreak cs then [] else ['\n'])

end EdgeConsole.Yaml
