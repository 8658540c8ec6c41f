import EdgeConsole.Json.Basic
import EdgeConsole.Text.Utf8

/-!
# Outlines of JSON texts

A text is read in two steps. The first, here, finds its outline: the tree of atoms, lists and
objects as far as the text is well formed. A reader then walks the outline in the order of the text
and meets a flaw only when it comes to it, so a value of the wrong type is reported before a flaw
that stands later in the text.

A value can be *read* or *skipped*, and skipping asks for less: it accepts numbers out of range and
unpaired surrogates. An outline records both outcomes:

* `Outline.unreadable` can be skipped but not read;
* `Outline.broken` ends the text for both, possibly with different faults, and with a third for a
  reader that asks for a name: that one gives up at the first letter or digit that is not quoted.

Main definitions: `Outline.scan`, which finds the outline of a value, and `Document.ofText`, which
also looks at what follows it.
-/

namespace EdgeConsole.Json

/-- Why a text is not JSON. -/
inductive Fault
  /-- The text ends inside a value. -/
  | truncated
  /-- The text has something that no value can have there. -/
  | malformed
deriving DecidableEq, Repr

/-- A value without parts. -/
inductive Atom
  | null
  | bool (b : Bool)
  | number (n : Number)
  | text (s : String)
deriving DecidableEq, Repr

/-- The name of a member as found in a text. -/
inductive Key
  | text (s : String)
  | unreadable (f : Fault)
  | broken (reading skipping : Fault)
deriving DecidableEq, Repr

/-- The shape of a value as far as its text is well formed. A list or an object ends with the flaw
that stands where a comma or its closing bracket should, if there is one; a flaw after a comma
belongs to the next part. -/
inductive Outline
  | atom (a : Atom)
  | unreadable (f : Fault)
  | broken (reading skipping naming : Fault)
  | list (items : List Outline) (flaw : Option Fault)
  | object (members : List (Key × Outline)) (flaw : Option Fault)
deriving Repr, Inhabited

/-! ## Strings -/

/-- The blanks that may stand between the parts of a JSON text. -/
def isSpace (c : Char) : Bool :=
  c == ' ' || c == '\n' || c == '\t' || c == '\r'

/-- Drops blanks. -/
def dropSpace (cs : List Char) : List Char := cs.dropWhile isSpace

/-- The value of a hexadecimal digit. -/
def hexValue? (c : Char) : Option Nat :=
  let n := c.toNat
  if 48 ≤ n ∧ n ≤ 57 then some (n - 48)
  else if 97 ≤ n ∧ n ≤ 102 then some (n - 87)
  else if 65 ≤ n ∧ n ≤ 70 then some (n - 55)
  else none

/-- The value of four hexadecimal digits. -/
def hex4? (a b c d : Char) : Option Nat :=
  match hexValue? a, hexValue? b, hexValue? c, hexValue? d with
  | some a, some b, some c, some d => some (((a * 16 + b) * 16 + c) * 16 + d)
  | _, _, _, _ => none

/-- The fault of a code-point escape with fewer than four characters left: the text has ended unless
they take four bytes. -/
def shortHexFault (cs : List Char) : Fault :=
  if (Text.Utf8.encode cs).length < 4 then .truncated else .malformed

/-- The character after a backslash, if it makes an escape by itself. -/
def simpleEscape? (c : Char) : Option Char :=
  if c = '"' then some '"'
  else if c = '\\' then some '\\'
  else if c = '/' then some '/'
  else if c = 'b' then some '\x08'
  else if c = 'f' then some '\x0c'
  else if c = 'n' then some '\n'
  else if c = 'r' then some '\r'
  else if c = 't' then some '\t'
  else none

/-- Reads a string after its opening quote: the characters it stands for, and what follows the
closing quote. Surrogates have to come in pairs. -/
def readString : List Char → Except Fault (List Char × List Char)
  | [] => .error .truncated
  | '"' :: rest => .ok ([], rest)
  | ['\\'] => .error .truncated
  | '\\' :: 'u' :: a :: b :: c :: d :: rest =>
    match hex4? a b c d with
    | none => .error .malformed
    | some n =>
      if 0xDC00 ≤ n ∧ n ≤ 0xDFFF then .error .malformed
      else if n < 0xD800 ∨ 0xDBFF < n then
        (readString rest).map fun (s, after) => (Char.ofNat n :: s, after)
      else
        match rest with
        | [] => .error .truncated
        | ['\\'] => .error .truncated
        | '\\' :: 'u' :: a' :: b' :: c' :: d' :: rest' =>
          match hex4? a' b' c' d' with
          | none => .error .malformed
          | some m =>
            if 0xDC00 ≤ m ∧ m ≤ 0xDFFF then
              (readString rest').map fun (s, after) =>
                (Char.ofNat ((n - 0xD800) * 0x400 + (m - 0xDC00) + 0x10000) :: s, after)
            else .error .malformed
        | '\\' :: 'u' :: few => .error (shortHexFault few)
        | _ => .error .malformed
  | '\\' :: 'u' :: few => .error (shortHexFault few)
  | '\\' :: c :: rest =>
    match simpleEscape? c with
    | some e => (readString rest).map fun (s, after) => (e :: s, after)
    | none => .error .malformed
  | c :: rest =>
    if c.toNat < 0x20 then .error .malformed
    else (readString rest).map fun (s, after) => (c :: s, after)

/-- Skips a string after its opening quote and returns what follows it. -/
def skipString : List Char → Except Fault (List Char)
  | [] => .error .truncated
  | '"' :: rest => .ok rest
  | ['\\'] => .error .truncated
  | '\\' :: 'u' :: a :: b :: c :: d :: rest =>
    match hex4? a b c d with
    | none => .error .malformed
    | some _ => skipString rest
  | '\\' :: 'u' :: few => .error (shortHexFault few)
  | '\\' :: c :: rest =>
    match simpleEscape? c with
    | some _ => skipString rest
    | none => .error .malformed
  | c :: rest => if c.toNat < 0x20 then .error .malformed else skipString rest

/-- Finds a string after its opening quote, and what follows it unless the text is broken. -/
def scanString (cs : List Char) : Key × Option (List Char) :=
  match readString cs with
  | .ok (s, rest) => (.text (String.ofList s), some rest)
  | .error f =>
    match skipString cs with
    | .ok rest => (.unreadable f, some rest)
    | .error g => (.broken f g, none)

/-! ## Numbers and words -/

/-- The fault of a missing digit. -/
def missingDigit : List Char → Fault
  | [] => .truncated
  | _ => .malformed

/-- Splits the digits off the front. -/
def spanDigits (cs : List Char) : List Char × List Char :=
  (cs.takeWhile Char.isDigit, cs.dropWhile Char.isDigit)

/-- Reads the digits before the point: a leading zero stands alone. -/
def readWhole (cs : List Char) : Except Fault (List Char × List Char) :=
  match spanDigits cs with
  | ([], rest) => .error (missingDigit rest)
  | ('0' :: _ :: _, _) => .error .malformed
  | split => .ok split

/-- Reads the fraction, if there is one. -/
def readFraction : List Char → Except Fault (Option (List Char) × List Char)
  | '.' :: cs =>
    match spanDigits cs with
    | ([], rest) => .error (missingDigit rest)
    | (ds, rest) => .ok (some ds, rest)
  | cs => .ok (none, cs)

/-- Drops the sign of an exponent; `true` marks a negative one. -/
def readSign : List Char → Bool × List Char
  | '+' :: cs => (false, cs)
  | '-' :: cs => (true, cs)
  | cs => (false, cs)

/-- Reads the exponent, if there is one. -/
def readExponent : List Char → Except Fault (Option (Bool × List Char) × List Char)
  | c :: cs =>
    if c = 'e' ∨ c = 'E' then
      let (negative, ds) := readSign cs
      match spanDigits ds with
      | ([], rest) => .error (missingDigit rest)
      | (ds, rest) => .ok (some (negative, ds), rest)
    else .ok (none, c :: cs)
  | [] => .ok (none, [])

/-- Reads the spelling of a number. -/
def readLiteral (cs : List Char) : Except Fault (Literal × List Char) := do
  let (negative, cs) := match cs with
    | '-' :: cs => (true, cs)
    | cs => (false, cs)
  let (whole, cs) ← readWhole cs
  let (fraction, cs) ← readFraction cs
  let (exponent, cs) ← readExponent cs
  return (⟨negative, whole, fraction, exponent⟩, cs)

/-- Finds a number. One that is cut short is malformed for skipping, and is no name in any case. -/
def scanNumber (cs : List Char) : Outline × Option (List Char) :=
  match readLiteral cs with
  | .error f => (.broken f .malformed .malformed, none)
  | .ok (l, rest) =>
    match l.value? with
    | some n => (.atom (.number n), some rest)
    | none => (.unreadable .malformed, some rest)

/-- Checks the letters of a word that stands for a value. -/
def expectWord : List Char → List Char → Except Fault (List Char)
  | [], cs => .ok cs
  | _ :: _, [] => .error .truncated
  | w :: ws, c :: cs => if w = c then expectWord ws cs else .error .malformed

/-- Finds a word that stands for a value. -/
def scanWord (word : List Char) (a : Atom) (cs : List Char) : Outline × Option (List Char) :=
  match expectWord word cs with
  | .ok rest => (.atom a, some rest)
  | .error f => (.broken f f .malformed, none)

/-! ## Values -/

/-- No value can begin here. -/
def noValue : Outline := .broken .malformed .malformed .malformed

/-- The text ends before the value. -/
def missingValue : Outline := .broken .truncated .truncated .truncated

mutual

/-- Finds the outline of the next value, and what follows it unless the text is broken there. The
number bounds the nesting and length of what is looked at; the length of the text is enough. -/
def Outline.scan : Nat → List Char → Outline × Option (List Char)
  | 0, _ => (noValue, none)
  | fuel + 1, cs =>
    match dropSpace cs with
    | [] => (missingValue, none)
    | c :: rest =>
      if c = '"' then
        match scanString rest with
        | (.text s, after) => (.atom (.text s), after)
        | (.unreadable f, after) => (.unreadable f, after)
        | (.broken f g, after) => (.broken f g f, after)
      else if c = '[' then
        match dropSpace rest with
        | ']' :: after => (.list [] none, some after)
        | _ =>
          let (items, flaw, after) := scanItems fuel rest
          (.list items flaw, after)
      else if c = '\x7b' then
        match dropSpace rest with
        | '\x7d' :: after => (.object [] none, some after)
        | _ =>
          let (members, flaw, after) := scanMembers fuel rest
          (.object members flaw, after)
      else if c = 'n' then scanWord ['u', 'l', 'l'] .null rest
      else if c = 't' then scanWord ['r', 'u', 'e'] (.bool true) rest
      else if c = 'f' then scanWord ['a', 'l', 's', 'e'] (.bool false) rest
      else if c = '-' || c.isDigit then scanNumber (c :: rest)
      else (noValue, none)

/-- Finds the items of a list up to its closing bracket. -/
def scanItems : Nat → List Char → List Outline × Option Fault × Option (List Char)
  | 0, _ => ([], some .malformed, none)
  | fuel + 1, cs =>
    match Outline.scan fuel cs with
    | (item, none) => ([item], some .malformed, none)
    | (item, some after) =>
      match dropSpace after with
      | [] => ([item], some .truncated, none)
      | c :: rest =>
        if c = ']' then ([item], none, some rest)
        else if c = ',' then
          let (items, flaw, after) := scanItems fuel rest
          (item :: items, flaw, after)
        else ([item], some .malformed, none)

/-- Finds the members of an object up to its closing bracket. -/
def scanMembers : Nat → List Char → List (Key × Outline) × Option Fault × Option (List Char)
  | 0, _ => ([], some .malformed, none)
  | fuel + 1, cs =>
    match dropSpace cs with
    | [] => ([(.broken .truncated .truncated, missingValue)], some .truncated, none)
    | c :: rest =>
      if c = '"' then
        match scanString rest with
        | (key, none) => ([(key, noValue)], some .malformed, none)
        | (key, some after) =>
          match dropSpace after with
          | [] => ([(key, missingValue)], some .truncated, none)
          | c :: rest =>
            if c = ':' then
              match Outline.scan fuel rest with
              | (value, none) => ([(key, value)], some .malformed, none)
              | (value, some after) =>
                match dropSpace after with
                | [] => ([(key, value)], some .truncated, none)
                | c :: rest =>
                  if c = '\x7d' then ([(key, value)], none, some rest)
                  else if c = ',' then
                    let (members, flaw, after) := scanMembers fuel rest
                    ((key, value) :: members, flaw, after)
                  else ([(key, value)], some .malformed, none)
            else ([(key, noValue)], some .malformed, none)
      else ([(.broken .malformed .malformed, noValue)], some .malformed, none)

end

/-- A whole text: the outline of its value, and whether nothing but blanks follows. -/
structure Document where
  value : Outline
  ends : Bool
deriving Repr, Inhabited

/-- The outline of a text. Of any two steps of the scan one passes a character. -/
def Document.ofText (s : String) : Document :=
  let cs := s.toList
  match Outline.scan (2 * cs.length + 1) cs with
  | (value, none) => ⟨value, false⟩
  | (value, some rest) => ⟨value, (dropSpace rest).isEmpty⟩

end EdgeConsole.Json
