import Mathlib.Algebra.Group.Nat.Defs
import EdgeConsole.Number.Binary64

/-!
# Natural numbers as floating point

Rounding a natural number to 53 bits never takes it below the greatest power of two that it reaches:
the mantissa has its leading bit at position 52 and the exponent is that of the number
(`leading_of_ofNat?`). So a number that is out of a range of whole powers of two stays out of it
when it is read back (`le_of_toNat?_ofNat?`), and with a minus sign it is never a natural number.
-/

namespace EdgeConsole.Number

/-- The nearest integer is not less than the quotient. -/
theorem div_le_divNearest (num den : Nat) : num / den ≤ divNearest num den := by
  unfold divNearest
  dsimp only
  split
  · exact Nat.le_refl _
  split
  · exact Nat.le_succ _
  split
  · exact Nat.le_refl _
  · exact Nat.le_succ _

namespace Binary64

variable {n : Nat} {x : Binary64}

/-- A number of so many bits above an exponent has that many after it is shifted by the exponent. -/
theorem pow_le_shifted (hn : n ≠ 0) {e : Int} {k : Nat} (h : (n.log2 : Int) = e + k) :
    2 ^ k ≤ (shifted n 1 e).1 / (shifted n 1 e).2 := by
  have hlog := Nat.log2_self_le hn
  unfold shifted
  split
  · have hsum : n.log2 = k + e.toNat := by omega
    have hpos : 0 < 2 ^ e.toNat := Nat.pow_pos (by decide)
    rw [hsum, Nat.pow_add] at hlog
    rw [Nat.one_mul]
    exact (Nat.le_div_iff_mul_le hpos).mpr hlog
  · have hsum : k = n.log2 + (-e).toNat := by omega
    rw [hsum, Nat.pow_add, Nat.div_one]
    exact Nat.mul_le_mul_right _ hlog

/-- A number has 53 bits above the exponent that is chosen for it. -/
theorem exponentOf_nat (hn : n ≠ 0) : exponentOf n 1 = (n.log2 : Int) - 52 := by
  have hone : Nat.log2 1 = 0 := rfl
  have hwide : ¬((shifted n 1 ((n.log2 : Int) - 53)).1 / (shifted n 1 ((n.log2 : Int) - 53)).2 <
      mantissaBound) :=
    Nat.not_lt.mpr (pow_le_shifted hn (k := 53) (by omega))
  unfold exponentOf
  simp only [hone, Int.natCast_zero, Int.sub_zero, if_neg hwide, leastExponent]
  omega

/-- Settling keeps the leading bit and never lowers the exponent. -/
theorem leading_of_settle? {negative : Bool} {m : Nat} {e : Int}
    (h : settle? negative m e = some x) (hm : 2 ^ 52 ≤ m) :
    2 ^ 52 ≤ x.mantissa ∧ e ≤ x.exponent := by
  unfold settle? at h
  by_cases hcarry : m = mantissaBound
  · simp only [if_pos hcarry] at h
    split at h
    · cases h
    · obtain rfl := Option.some.inj h
      have hhalf : 2 ^ 52 ≤ mantissaBound / 2 := by decide
      exact ⟨hhalf, by simp only; omega⟩
  · simp only [if_neg hcarry] at h
    split at h
    · cases h
    · obtain rfl := Option.some.inj h
      exact ⟨hm, Int.le_refl e⟩

/-- A natural number that is rounded keeps its greatest power of two. -/
theorem leading_of_ofNat? (hn : n ≠ 0) (h : ofNat? n = some x) :
    2 ^ 52 ≤ x.mantissa ∧ (n.log2 : Int) - 52 ≤ x.exponent := by
  unfold ofNat? ofRatio? at h
  simp only [if_neg hn, exponentOf_nat hn] at h
  have hquotient := pow_le_shifted hn (e := (n.log2 : Int) - 52) (k := 52) (by omega)
  exact leading_of_settle? h (Nat.le_trans hquotient (div_le_divNearest _ _))

theorem pow_le_magnitude {k : Nat} (hmantissa : 2 ^ 52 ≤ x.mantissa)
    (hexponent : (k : Int) - 52 ≤ x.exponent) : 2 ^ k ≤ x.magnitude.1 / x.magnitude.2 := by
  unfold magnitude
  split
  · have hle : k ≤ 52 + x.exponent.toNat := by omega
    rw [Nat.div_one]
    calc 2 ^ k ≤ 2 ^ (52 + x.exponent.toNat) := Nat.pow_le_pow_right (by decide) hle
      _ = 2 ^ 52 * 2 ^ x.exponent.toNat := Nat.pow_add ..
      _ ≤ x.mantissa * 2 ^ x.exponent.toNat := Nat.mul_le_mul_right _ hmantissa
  · have hle : k + (-x.exponent).toNat ≤ 52 := by omega
    have hpos : 0 < 2 ^ (-x.exponent).toNat := Nat.pow_pos (by decide)
    refine (Nat.le_div_iff_mul_le hpos).mpr ?_
    rw [← Nat.pow_add]
    exact Nat.le_trans (Nat.pow_le_pow_right (by decide) hle) hmantissa

theorem toNat?_eq (x : Binary64) :
    x.toNat? =
      if x.magnitude.1 % x.magnitude.2 = 0 ∧ (x.negative = false ∨ x.magnitude.1 = 0) then
        some (x.magnitude.1 / x.magnitude.2)
      else none := rfl

/-- A natural number that is rounded and read back, with whatever sign, reaches its greatest power
of two. -/
theorem le_of_toNat?_ofNat? (hn : n ≠ 0) (h : ofNat? n = some x) {negative : Bool} {k : Nat}
    (hk : (x.withSign negative).toNat? = some k) : 2 ^ n.log2 ≤ k := by
  obtain ⟨hmantissa, hexponent⟩ := leading_of_ofNat? hn h
  have hpow : 2 ^ n.log2 ≤ (x.withSign negative).magnitude.1 / (x.withSign negative).magnitude.2 :=
    pow_le_magnitude hmantissa hexponent
  rw [toNat?_eq] at hk
  split at hk
  · obtain rfl := Option.some.inj hk
    exact hpow
  · cases hk

/-- Below zero there are no natural numbers. -/
theorem toNat?_withSign_true (hn : n ≠ 0) (h : ofNat? n = some x) :
    (x.withSign true).toNat? = none := by
  obtain ⟨hmantissa, hexponent⟩ := leading_of_ofNat? hn h
  have hpow : 2 ^ n.log2 ≤ (x.withSign true).magnitude.1 / (x.withSign true).magnitude.2 :=
    pow_le_magnitude hmantissa hexponent
  rw [toNat?_eq, if_neg]
  rintro ⟨-, hsign | hzero⟩
  · cases hsign
  · rw [hzero, Nat.zero_div] at hpow
    exact absurd hpow (Nat.not_le.mpr (Nat.pow_pos (by decide)))

end Binary64

end EdgeConsole.Number
