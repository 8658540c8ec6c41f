import EdgeConsole.Text.Split

/-!
# Tables of characters

How the data of a standard is kept. A property of characters is a list of ranges of code points, and
a mapping is a list of replacements. Both are written in hexadecimal, entries between blanks:

* `41-5A` is a range and `AA` a single code point;
* `C0:41.300` replaces a code point by a sequence;
* `41-5A:61` replaces the code points of a range, the first by the one given and each later one by
  as much later a one; in `100-12E/2:101` only every second code point is replaced.
-/

namespace EdgeConsole.Text

/-- The value of hexadecimal digits in upper case. -/
def hexNumber (cs : List Char) : Nat :=
  cs.foldl (fun n c => n * 16 + if c.isDigit then c.toNat - 48 else c.toNat - 55) 0

/-- The parts before and after the first occurrence of a character. -/
def cutAt (mark : Char) (cs : List Char) : List Char × List Char :=
  (cs.takeWhile (· != mark), (cs.dropWhile (· != mark)).drop 1)

/-- The code points from `first` to `last`. -/
structure CodeRange where
  first : Nat
  last : Nat
deriving DecidableEq, Repr

namespace CodeRange

/-- Whether a code point lies in the range. -/
def contains (r : CodeRange) (code : Nat) : Bool :=
  r.first ≤ code && code ≤ r.last

/-- Reads a range. -/
def read (entry : List Char) : CodeRange :=
  match cutAt '-' entry with
  | (first, []) => ⟨hexNumber first, hexNumber first⟩
  | (first, last) => ⟨hexNumber first, hexNumber last⟩

end CodeRange

/-- The ranges in the lines of a table. -/
def readRanges (lines : List String) : List CodeRange :=
  lines.flatMap fun line => (splitOn ' ' line.toList).map CodeRange.read

/-- Whether a table has a character. -/
def listed (table : List CodeRange) (c : Char) : Bool :=
  table.any (·.contains c.toNat)

/-- What stands for every `step`-th code point from `first` to `last`. -/
structure Replacement where
  first : Nat
  last : Nat
  step : Nat
  target : List Nat
deriving DecidableEq, Repr

namespace Replacement

/-- Whether a code point is replaced. -/
def replaces (r : Replacement) (code : Nat) : Bool :=
  r.first ≤ code && code ≤ r.last && (code - r.first) % r.step == 0

/-- What stands for a code point that is replaced. -/
def image (r : Replacement) (code : Nat) : List Char :=
  r.target.map fun t => Char.ofNat (t + (code - r.first))

/-- Reads a replacement. -/
def read (entry : List Char) : Replacement :=
  let (source, target) := cutAt ':' entry
  let (range, step) := cutAt '/' source
  let r := CodeRange.read range
  ⟨r.first, r.last, if step.isEmpty then 1 else hexNumber step,
    (splitOn '.' target).map hexNumber⟩

end Replacement

/-- The replacements in the lines of a table. -/
def readReplacements (lines : List String) : List Replacement :=
  lines.flatMap fun line => (splitOn ' ' line.toList).map Replacement.read

/-- What a table puts for a character, if anything. -/
def replacement? (table : List Replacement) (c : Char) : Option (List Char) :=
  (table.find? (·.replaces c.toNat)).map (·.image c.toNat)

end EdgeConsole.Text
