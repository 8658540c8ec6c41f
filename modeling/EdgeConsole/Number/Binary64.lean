/-!
# Binary floating point with 64 bits

Finite numbers of the IEEE 754 format `binary64` as exact values: a sign, a mantissa below `2 ^ 53`
and an exponent of two. Every operation is the exact rational result followed by one rounding to
the nearest representable value, a tie going to the even mantissa; a result beyond the largest
finite number is refused.
-/

namespace EdgeConsole.Number

/-- The finite number `± mantissa * 2 ^ exponent`. The mantissa has its leading bit at position 52
unless the exponent is the least one. -/
structure Binary64 where
  negative : Bool
  mantissa : Nat
  exponent : Int
deriving DecidableEq, Repr

/-- The nearest integer to `num / den`; a tie goes to the even one. -/
def divNearest (num den : Nat) : Nat :=
  let q := num / den
  let r := num % den
  if 2 * r < den then q
  else if den < 2 * r then q + 1
  else if q % 2 = 0 then q else q + 1

namespace Binary64

/-- Mantissas have 53 bits. -/
def mantissaBound : Nat := Nat.pow 2 53

/-- The least exponent of two. -/
def leastExponent : Int := -1074

/-- The greatest exponent of two. -/
def greatestExponent : Int := 971

/-- Zero of either sign. -/
def zero (negative : Bool) : Binary64 := ⟨negative, 0, leastExponent⟩

/-- Numerator and denominator of `num / den / 2 ^ e`. -/
def shifted (num den : Nat) (e : Int) : Nat × Nat :=
  if 0 ≤ e then (num, den * Nat.pow 2 e.toNat) else (num * Nat.pow 2 (-e).toNat, den)

/-- The exponent under which `num / den` has a mantissa of 53 bits, or the least one. -/
def exponentOf (num den : Nat) : Int :=
  let guess : Int := (num.log2 : Int) - den.log2 - 53
  let (n, d) := shifted num den guess
  max leastExponent (if n / d < mantissaBound then guess else guess + 1)

/-- A mantissa that rounding has carried to 54 bits is halved; an exponent too large is refused. -/
def settle? (negative : Bool) (mantissa : Nat) (e : Int) : Option Binary64 :=
  let (m, e) := if mantissa = mantissaBound then (mantissaBound / 2, e + 1) else (mantissa, e)
  if e > greatestExponent then none else some ⟨negative, m, e⟩

/-- The number nearest to `± num / den`. -/
def ofRatio? (negative : Bool) (num den : Nat) : Option Binary64 :=
  if num = 0 then some (zero negative)
  else
    let e := exponentOf num den
    let (n, d) := shifted num den e
    settle? negative (divNearest n d) e

/-- The number nearest to a natural number. -/
def ofNat? (n : Nat) : Option Binary64 :=
  ofRatio? false n 1

/-- Numerator and denominator of the absolute value. -/
def magnitude (x : Binary64) : Nat × Nat :=
  if 0 ≤ x.exponent then (x.mantissa * Nat.pow 2 x.exponent.toNat, 1)
  else (x.mantissa, Nat.pow 2 (-x.exponent).toNat)

/-- The product. -/
def mul? (x y : Binary64) : Option Binary64 :=
  let (a, b) := x.magnitude
  let (c, d) := y.magnitude
  ofRatio? (x.negative != y.negative) (a * c) (b * d)

/-- The quotient; the divisor is not zero. -/
def div? (x y : Binary64) : Option Binary64 :=
  let (a, b) := x.magnitude
  let (c, d) := y.magnitude
  ofRatio? (x.negative != y.negative) (a * d) (b * c)

/-- Whether the number is zero, of either sign. -/
def isZero (x : Binary64) : Bool := x.mantissa == 0

/-- The same magnitude with the given sign. -/
def withSign (negative : Bool) (x : Binary64) : Binary64 := { x with negative }

/-- The value, if it is a natural number. Zero of either sign is. -/
def toNat? (x : Binary64) : Option Nat :=
  let (num, den) := x.magnitude
  if num % den = 0 ∧ (x.negative = false ∨ num = 0) then some (num / den) else none

end Binary64

end EdgeConsole.Number
