/-!
# Decimal naturals of bounded size

Reading a natural number that has to fit a machine word. The spelling is an optional plus sign and
one or more ASCII digits; leading zeros are allowed. The first character that is no digit, or
that carries the value beyond the bound, decides the fault.
-/

namespace EdgeConsole.Number

/-- Why a text is not a natural number below the bound. -/
inductive NaturalFault
  | empty
  | invalidDigit
  | tooLarge
deriving DecidableEq, Repr

/-- The wording of a fault. -/
def NaturalFault.message : NaturalFault → String
  | .empty => "cannot parse integer from empty string"
  | .invalidDigit => "invalid digit found in string"
  | .tooLarge => "number too large to fit in target type"

/-- Reads digits into a value that stays below the bound. -/
def readDigits (bound : Nat) (value : Nat) : List Char → Except NaturalFault Nat
  | [] => .ok value
  | c :: cs =>
    if c.isDigit then
      let next := value * 10 + (c.toNat - '0'.toNat)
      if next < bound then readDigits bound next cs else .error .tooLarge
    else .error .invalidDigit

/-- Reads a natural number below the bound. -/
def readNatural (bound : Nat) : List Char → Except NaturalFault Nat
  | [] => .error .empty
  | ['+'] => .error .invalidDigit
  | '+' :: cs => readDigits bound 0 cs
  | cs => readDigits bound 0 cs

/-- Reads a number of 32 bits. -/
def readWord32 (s : String) : Except NaturalFault UInt32 :=
  (readNatural UInt32.size s.toList).map UInt32.ofNat

end EdgeConsole.Number
