import EdgeConsole.Number.Shortest

/-!
# Numbers of a JSON text

A number is kept as an integer when its literal has neither fraction nor exponent and its value fits
a 64-bit word, signed or unsigned. Everything else, and `-0`, is a binary floating-point number,
and a literal beyond the largest of those is out of range.

The digits of a literal are gathered into one significand as long as it fits 64 bits. The power of
ten that remains is applied by one rounded multiplication or division, after as many divisions by
`10 ^ 308` as a very small exponent needs.
-/

namespace EdgeConsole.Json

open EdgeConsole.Number

/-- A number as it is kept: an exact integer or a binary floating-point number. -/
inductive Number
  | integer (i : Int)
  | float (x : Binary64)
deriving DecidableEq, Repr

/-- A number as it is spelled. -/
structure Literal where
  negative : Bool
  whole : List Char
  fraction : Option (List Char)
  /-- The sign and digits of the exponent; `true` marks a negative one. -/
  exponent : Option (Bool × List Char)
deriving DecidableEq, Repr

/-- The value of a decimal digit. -/
def digitValue (c : Char) : Nat := c.toNat - '0'.toNat

/-- The value of a list of decimal digits. -/
def digitsValue (cs : List Char) : Nat :=
  cs.foldl (fun n c => n * 10 + digitValue c) 0

/-- Appends digits to a significand while it fits 64 bits; returns it with the digits left over. -/
def gather (significand : Nat) : List Char → Nat × List Char
  | [] => (significand, [])
  | c :: cs =>
    let next := significand * 10 + digitValue c
    if next < UInt64.size then gather next cs else (significand, c :: cs)

/-- The power of ten as floating point. -/
def powerOfTen? (n : Nat) : Option Binary64 :=
  Binary64.ofNat? (Nat.pow 10 n)

/-- The greatest power of ten that is a finite number. -/
def greatestPower : Nat := 308

/-- Multiplies by a power of ten, rounding once, or once more for each time that the exponent lies
below the inverse of the greatest power. -/
def scale? (x : Binary64) (e : Int) : Option Binary64 :=
  if e.natAbs ≤ greatestPower then
    (powerOfTen? e.natAbs).bind fun p => if 0 ≤ e then x.mul? p else x.div? p
  else if x.isZero then some x
  else if 0 ≤ e then none
  else
    ((powerOfTen? greatestPower).bind x.div?).bind fun y => scale? y (e + greatestPower)
termination_by e.natAbs
decreasing_by
  simp only [greatestPower] at *
  omega

/-- The floating-point number `± significand * 10 ^ e`. -/
def floatOf? (negative : Bool) (significand : Nat) (e : Int) : Option Number :=
  match Binary64.ofNat? significand with
  | none => none
  | some x => (scale? x e).map fun y => .float (y.withSign negative)

namespace Literal

/-- The exponent written in the literal. -/
def exponentValue (l : Literal) : Int :=
  match l.exponent with
  | none => 0
  | some (true, ds) => -(digitsValue ds : Int)
  | some (false, ds) => digitsValue ds

/-- The number a literal stands for, or nothing if it is out of range. -/
def value? (l : Literal) : Option Number :=
  let (significand, dropped) := gather 0 l.whole
  match l.fraction, l.exponent, dropped with
  | none, none, [] =>
    if !l.negative then some (.integer significand)
    else if 0 < significand ∧ 2 * significand ≤ UInt64.size then
      some (.integer (-(significand : Int)))
    else floatOf? true significand 0
  | fraction, _, _ =>
    let digits := fraction.getD []
    let (full, unread) := gather significand digits
    let used : Int := digits.length - unread.length
    floatOf? l.negative full (dropped.length - used + l.exponentValue)

end Literal

namespace Number

/-- The text of a number; a float shows the sign of its exponent as asked. -/
def chars (sign : ExponentSign) : Number → List Char
  | .integer i => if i < 0 then '-' :: Nat.toDigits 10 i.natAbs else Nat.toDigits 10 i.natAbs
  | .float x => x.chars sign

/-- The text of a number in JSON and in messages. -/
def text (n : Number) : String := String.ofList (n.chars .plus)

/-- The number as floating point. -/
def toFloat? : Number → Option Binary64
  | .integer i => (Binary64.ofNat? i.natAbs).map (·.withSign (i < 0))
  | .float x => some x

end Number

end EdgeConsole.Json
