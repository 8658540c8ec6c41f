/-!
# Punycode

The encoding of labels in ASCII. An encoded label ends in a chain of differences, each of which says
how far to go from the last inserted character to the next one: through the places of the label, and
through the code points. A difference is a number in digits of mixed base, whose thresholds depend
on a bias that adapts to the sizes of the differences before.

Main definition: `decodeLabel?`.
-/

namespace EdgeConsole.Web.Domain

/-- The bound of the numbers in an encoded label. -/
def numberBound : Nat := UInt32.size

/-- The value of a digit. -/
def digitValue? (c : Char) : Option Nat :=
  let n := c.toNat
  if 97 ≤ n ∧ n ≤ 122 then some (n - 97)
  else if 48 ≤ n ∧ n ≤ 57 then some (n - 22)
  else none

/-- Shrinks a difference until it is small; the second number counts the digits this stands for. -/
def shrink (delta k : Nat) : Nat × Nat :=
  if 455 < delta then shrink (delta / 35) (k + 36) else (delta, k)
termination_by delta
decreasing_by omega

/-- The bias after a difference of the given size, for a label of `points` characters. -/
def adaptBias (delta points : Nat) (first : Bool) : Nat :=
  let halved := if first then delta / 700 else delta / 2
  let (d, k) := shrink (halved + halved / points) 0
  k + 36 * d / (d + 38)

/-- The least value of a digit after which the number goes on. -/
def threshold (bias k : Nat) : Nat :=
  if k ≤ bias then 1 else if bias + 26 ≤ k then 26 else k - bias

/-- Adds one difference to a place: a number in digits of mixed base, the lowest first. -/
def addDifference? (bias : Nat) (k weight place : Nat) : List Char → Option (Nat × List Char)
  | [] => none
  | c :: cs =>
    match digitValue? c with
    | none => none
    | some d =>
      let place := place + d * weight
      let weight' := weight * (36 - threshold bias k)
      if numberBound ≤ place then none
      else if d < threshold bias k then some (place, cs)
      else if numberBound ≤ weight' then none
      else addDifference? bias (k + 36) weight' place cs

/-- A difference takes at least one character. -/
theorem length_lt_of_addDifference? {bias k weight place n : Nat} {cs rest : List Char}
    (h : addDifference? bias k weight place cs = some (n, rest)) : rest.length < cs.length := by
  fun_induction addDifference? bias k weight place cs with
  | case1 | case2 | case3 | case5 => simp at h
  | case4 =>
    obtain ⟨-, rfl⟩ := Prod.mk.inj (Option.some.inj h)
    simp
  | case6 _ _ _ _ _ _ _ _ _ _ _ _ ih =>
    have := ih h
    simp
    omega

/-- A code point that is a character. -/
def isScalar (code : Nat) : Bool :=
  code < 0x110000 && !(0xD800 ≤ code && code ≤ 0xDFFF)

/-- Inserts the characters that the differences name into a label. -/
def insertPoints? (bias point index : Nat) (label cs : List Char) : Option (List Char) :=
  if cs.isEmpty then some label
  else
    match _h : addDifference? bias 36 1 index cs with
    | none => none
    | some (place, rest) =>
      let size := label.length + 1
      let point := point + place / size
      let slot := place % size
      if isScalar point then
        insertPoints? (adaptBias (place - index) size (index == 0)) point (slot + 1)
          (label.take slot ++ Char.ofNat point :: label.drop slot) rest
      else none
termination_by cs.length
decreasing_by exact length_lt_of_addDifference? _h

/-- The label that an encoded one stands for, without the mark in front. The differences follow the
last hyphen, if there is one after the start. -/
def decodeLabel? (cs : List Char) : Option (List Char) :=
  let tail := (cs.reverse.takeWhile (· != '-')).reverse
  let front := (cs.take (cs.length - tail.length)).dropLast
  let differences := if front.isEmpty then cs else tail
  insertPoints? 72 128 0 front differences

end EdgeConsole.Web.Domain
