import EdgeConsole.Number.Binary64

/-!
# Shortest decimals

The decimal text of a binary number: the fewest digits that read back as that number, and of those
the nearest to it. A decimal reads back as the number exactly when it lies in the interval of reals
that round to it, the ends belonging to the interval when the mantissa is even.
-/

namespace EdgeConsole.Number

/-- The positive decimal `0.d₁d₂… * 10 ^ point`, given by its digits. -/
structure Decimal where
  digits : List Char
  point : Int
deriving DecidableEq, Repr

/-- The reals that round to a number, over a common denominator. -/
structure Interval where
  low : Nat
  value : Nat
  high : Nat
  den : Nat
  closed : Bool
deriving DecidableEq, Repr

namespace Interval

/-- The interval of a number that is not zero. Below a power of two the numbers lie closer
together, so the interval is shorter on that side. -/
def ofBinary64 (x : Binary64) : Interval :=
  let narrow := 2 * x.mantissa = Binary64.mantissaBound ∧ Binary64.leastExponent < x.exponent
  let below := if narrow then 1 else 2
  let e := x.exponent - 2
  let unit := if 0 ≤ e then Nat.pow 2 e.toNat else 1
  let den := if 0 ≤ e then 1 else Nat.pow 2 (-e).toNat
  ⟨(4 * x.mantissa - below) * unit, 4 * x.mantissa * unit, (4 * x.mantissa + 2) * unit, den,
    x.mantissa % 2 == 0⟩

/-- Whether `num / den` lies in the interval. -/
def contains (i : Interval) (num den : Nat) : Bool :=
  if i.closed then i.low * den ≤ num * i.den && num * i.den ≤ i.high * den
  else i.low * den < num * i.den && num * i.den < i.high * den

end Interval

/-- `d * 10 ^ g` as numerator and denominator. -/
def gridPoint (d : Nat) (g : Int) : Nat × Nat :=
  if 0 ≤ g then (d * Nat.pow 10 g.toNat, 1) else (d, Nat.pow 10 (-g).toNat)

/-- Counts the zeros after the decimal point of a value below one. -/
def zerosAfterPoint (num den : Nat) : Nat → Nat
  | 0 => 0
  | fuel + 1 => if den ≤ num * 10 then 0 else zerosAfterPoint (num * 10) den fuel + 1

/-- The power of ten just above a positive value: `10 ^ (point - 1) ≤ num / den < 10 ^ point`. -/
def decimalPoint (num den : Nat) : Int :=
  if den ≤ num then (Nat.toDigits 10 (num / den)).length
  else -(zerosAfterPoint num den (den.log2 + 1) : Int)

/-- The point of the grid with spacing `10 ^ g` that lies in the interval and is nearest to its
value. Of the two neighbours of the value the nearer one is taken, of two equally near the even. -/
def nearestOnGrid? (i : Interval) (g : Int) : Option Nat :=
  let (num, den) := gridPoint 1 (-g)
  let d := i.value * num / (i.den * den)
  let (a, b) := gridPoint d g
  let (a', b') := gridPoint (d + 1) g
  match i.contains a b, i.contains a' b' with
  | true, false => some d
  | false, true => some (d + 1)
  | false, false => none
  | true, true =>
    let r := i.value * num % (i.den * den)
    if 2 * r < i.den * den then some d
    else if i.den * den < 2 * r then some (d + 1)
    else some (if d % 2 = 0 then d else d + 1)

/-- Tries grids from the coarsest on; seventeen digits always suffice. -/
def shortestFrom (i : Interval) (point : Int) : Nat → Nat → Nat × Int
  | 0, _ => (0, 0)
  | fuel + 1, n =>
    match nearestOnGrid? i (point - n) with
    | some d => (d, point - n)
    | none => shortestFrom i point fuel (n + 1)

/-- The shortest decimal of a number that is not zero. -/
def Binary64.shortest (x : Binary64) : Decimal :=
  let i := Interval.ofBinary64 x
  let (d, g) := shortestFrom i (decimalPoint i.value i.den) 17 1
  let all := Nat.toDigits 10 d
  ⟨(all.reverse.dropWhile (· == '0')).reverse, all.length + g⟩

/-! ## Written form -/

/-- How an exponent is written when it is not negative. -/
inductive ExponentSign
  | plus
  | bare
deriving DecidableEq, Repr

/-- The digits with a point among, before or after them; a whole number keeps one zero after it. -/
def Decimal.positional (d : Decimal) : List Char :=
  let n := d.digits.length
  if d.point ≤ 0 then '0' :: '.' :: List.replicate (-d.point).toNat '0' ++ d.digits
  else
    let p := d.point.toNat
    if n ≤ p then d.digits ++ List.replicate (p - n) '0' ++ ['.', '0']
    else d.digits.take p ++ '.' :: d.digits.drop p

/-- One digit, the rest after a point, and the exponent of ten. -/
def Decimal.scientific (sign : ExponentSign) (d : Decimal) : List Char :=
  let tail := match d.digits.drop 1 with
    | [] => []
    | more => '.' :: more
  let e := d.point - 1
  let mark := if e < 0 then ['-'] else match sign with
    | .plus => ['+']
    | .bare => []
  d.digits.take 1 ++ tail ++ 'e' :: mark ++ Nat.toDigits 10 e.natAbs

/-- Values from `10 ^ (-5)` up to but not including `10 ^ 16` are written positionally, all others
with an exponent. -/
def Decimal.chars (sign : ExponentSign) (d : Decimal) : List Char :=
  if -5 < d.point ∧ d.point ≤ 16 then d.positional else d.scientific sign

/-- The shortest text of a number. -/
def Binary64.chars (sign : ExponentSign) (x : Binary64) : List Char :=
  let body := if x.isZero then ['0', '.', '0'] else x.shortest.chars sign
  if x.negative then '-' :: body else body

end EdgeConsole.Number
