import EdgeConsole.Text.Blank
import EdgeConsole.Text.Direction
import EdgeConsole.Text.Joining
import EdgeConsole.Text.Split
import EdgeConsole.Web.Domain.Mapping
import EdgeConsole.Web.Domain.Punycode

/-!
# Labels

What a label of a domain name has to be. A label beyond ASCII cannot begin with a mark, and the
characters that part or join letters without being seen may stand only where they change how the
letters look. If a name has a letter that runs to the left, the labels of the whole name keep to the
rules for both directions.

Main definitions: `readLabel?`, `keepsDirection`.
-/

namespace EdgeConsole.Web.Domain

open Text (Direction direction joining isMark isVirama)

/-! ## Joiners -/

/-- The first character that is not looked through joins as asked. -/
def meetsJoining (joins : Text.Joining → Bool) : List Char → Bool
  | [] => false
  | c :: cs =>
    let j := joining c
    joins j || (j == .transparent && meetsJoining joins cs)

/-- The character keeps letters apart that would join. -/
def nonJoiner : Char := '\u200c'

/-- The character joins letters that would stand apart. -/
def joiner : Char := '\u200d'

/-- Whether every joiner has its place, for the characters after `before`, which is held nearest
first. A joiner follows a virama; a non-joiner may also stand between letters that join. -/
def joinersHavePlace (before : List Char) : List Char → Bool
  | [] => true
  | c :: cs =>
    let afterVirama := before.head?.any isVirama
    let parts := meetsJoining (·.joinsNext) before && meetsJoining (·.joinsPrevious) cs
    let fits :=
      if c == nonJoiner then afterVirama || parts else if c == joiner then afterVirama else true
    fits && joinersHavePlace (c :: before) cs

/-! ## One label -/

/-- The most characters of a label that has any beyond ASCII. -/
def labelLimit : Nat := 1000

/-- The most characters of an encoded label after the mark in front. -/
def encodedLimit : Nat := 2000

/-- The character is one of ASCII. -/
def isAscii (c : Char) : Bool := c.toNat < 0x80

/-- A label as it is read has its form. -/
def isWellFormed (label : List Char) : Bool :=
  !label.head?.any isMark && joinersHavePlace [] label &&
    (label.all isAscii || label.length ≤ labelLimit)

/-- The mark in front of an encoded label. -/
def encodedMark : List Char := ['x', 'n', '-', '-']

/-- Characters of ASCII that have no place in a name. -/
def isForbidden (c : Char) : Bool :=
  c.toNat ≤ 0x20 || c.toNat == 0x7F || "#/:<>?@[\\]^|%".toList.contains c

/-- An encoded label has no other form than the one it stands for. -/
def isPlain (label : List Char) : Bool :=
  mapName? label = some label && !label.any fun c => isForbidden c || c == '.'

/-- The label as it is read: an encoded one stands for another, which must be in its plain form. -/
def readLabel? (label : List Char) : Option (List Char) :=
  if encodedMark.isPrefixOf label then
    let encoded := label.drop encodedMark.length
    let mayEncode :=
      encoded.all isAscii && encoded.getLast?.any (· != '-') && encoded.length ≤ encodedLimit
    if mayEncode then (decodeLabel? encoded).filter isPlain else none
  else some label

/-! ## Direction -/

/-- The character runs to the left. -/
def runsLeft (c : Char) : Bool :=
  match direction c with
  | .rightToLeft | .arabicLetter | .arabicNumber => true
  | _ => false

/-- What may stand inside a label that runs to the right. -/
def fitsRight : Direction → Bool
  | .leftToRight | .europeanNumber | .europeanSeparator | .commonSeparator | .europeanTerminator
  | .otherNeutral | .boundaryNeutral | .nonspacingMark => true
  | _ => false

/-- What may stand inside a label that runs to the left. -/
def fitsLeft : Direction → Bool
  | .rightToLeft | .arabicLetter | .arabicNumber => true
  | .leftToRight => false
  | d => fitsRight d

/-- A label in a name with letters that run to the left. It begins with a letter, which gives its
direction, ends in a letter or a number but for marks, and has digits of one kind only if it runs to
the left. -/
def keepsDirection (label : List Char) : Bool :=
  match label.map direction with
  | [] => true
  | first :: rest =>
    let rest := Text.dropTail (· == .nonspacingMark) rest
    let last? := rest.getLast?
    match first with
    | .leftToRight =>
      rest.all fitsRight && last?.all fun d => d == .leftToRight || d == .europeanNumber
    | .rightToLeft | .arabicLetter =>
      rest.all fitsLeft && !(rest.contains .europeanNumber && rest.contains .arabicNumber) &&
        last?.all fun d =>
          d == .rightToLeft || d == .arabicLetter || d == .europeanNumber || d == .arabicNumber
    | _ => false

/-! ## All labels of a name -/

/-- A name in its plain form, if its labels are well formed. -/
def plainName? (cs : List Char) : Option (List Char) := do
  let name ← mapName? cs
  let labels ← (Text.splitOn '.' name).mapM readLabel?
  if name.any isForbidden || !labels.all isWellFormed then none
  else if labels.any (·.any runsLeft) && !labels.all keepsDirection then none
  else some name

end EdgeConsole.Web.Domain
