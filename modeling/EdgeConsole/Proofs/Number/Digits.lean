import EdgeConsole.Json.Number
import EdgeConsole.Number.Natural
import EdgeConsole.Proofs.Outcome

/-!
# Decimal digits

The digits of a natural number are read as that number, by the reader of bounded naturals and by
the reader of number literals, as long as it fits. Both readers carry a value that only grows with
the digits that follow (`le_ofDigitChars`), so a number that fits is never given up on the way.

The reader of bounded naturals reads the numerals (`IsNumeral`) of the numbers below its bound and
nothing else (`readNatural_eq_ok_iff`).
-/

namespace EdgeConsole.Number

/-- The value grows with every digit. -/
theorem le_ofDigitChars (cs : List Char) (n : Nat) : n ≤ Nat.ofDigitChars 10 cs n := by
  induction cs generalizing n with
  | nil => exact Nat.le_refl n
  | cons c cs ih =>
    rw [Nat.ofDigitChars_cons]
    have := ih (10 * n + (c.toNat - '0'.toNat))
    omega

theorem isDigit_of_mem_toDigits {n : Nat} {c : Char} (h : c ∈ Nat.toDigits 10 n) :
    c.isDigit = true :=
  Nat.isDigit_of_mem_toDigits (by decide) (by decide) h

/-! ## Bounded naturals -/

/-- Digits are read into the value that they append to a number, if that is below the bound. -/
theorem readDigits_eq_ok_iff {bound : Nat} {cs : List Char} {n m : Nat} (h : n < bound) :
    readDigits bound n cs = .ok m ↔
      (∀ c ∈ cs, c.isDigit = true) ∧ Nat.ofDigitChars 10 cs n = m ∧ m < bound := by
  induction cs generalizing n with
  | nil =>
    simp only [readDigits, Except.ok.injEq, Nat.ofDigitChars_nil]
    constructor
    · rintro rfl
      exact ⟨nofun, rfl, h⟩
    · exact fun hm => hm.2.1
  | cons c cs ih =>
    have hvalue : n * 10 + (c.toNat - '0'.toNat) = 10 * n + (c.toNat - '0'.toNat) := by omega
    rw [Nat.ofDigitChars_cons, readDigits, List.forall_mem_cons]
    split
    · next hdigit =>
      dsimp only
      split
      · next hnext =>
        rw [ih hnext, hvalue]
        simp [hdigit]
      · next hnext =>
        have hgrows := le_ofDigitChars cs (10 * n + (c.toNat - '0'.toNat))
        simp only [reduceCtorEq, false_iff]
        rintro ⟨-, rfl, hbound⟩
        omega
    · next hdigit => simp [hdigit]

/-- The decimal numerals of a natural number: one or more digits, any number of them leading zeros,
and perhaps a plus sign in front. -/
def IsNumeral (cs : List Char) (n : Nat) : Prop :=
  ∃ ds, (cs = ds ∨ cs = '+' :: ds) ∧ ds ≠ [] ∧ (∀ c ∈ ds, c.isDigit = true) ∧
    Nat.ofDigitChars 10 ds 0 = n

/-- Without a sign, a numeral is nothing but digits. -/
theorem isNumeral_iff_of_ne_plus {c : Char} (hc : c ≠ '+') (cs : List Char) (n : Nat) :
    IsNumeral (c :: cs) n ↔
      (∀ d ∈ c :: cs, d.isDigit = true) ∧ Nat.ofDigitChars 10 (c :: cs) 0 = n := by
  constructor
  · rintro ⟨ds, hds | hds, -, hdigits, hvalue⟩
    · rw [hds]
      exact ⟨hdigits, hvalue⟩
    · exact absurd (List.cons.inj hds).1 hc
  · rintro ⟨hdigits, hvalue⟩
    exact ⟨c :: cs, .inl rfl, List.cons_ne_nil c cs, hdigits, hvalue⟩

/-- After a plus sign, a numeral is nothing but digits, and at least one of them. -/
theorem isNumeral_plus_iff (cs : List Char) (n : Nat) :
    IsNumeral ('+' :: cs) n ↔
      cs ≠ [] ∧ (∀ d ∈ cs, d.isDigit = true) ∧ Nat.ofDigitChars 10 cs 0 = n := by
  constructor
  · rintro ⟨ds, hds | hds, hne, hdigits, hvalue⟩
    · subst hds
      have hplus := hdigits '+' (by simp)
      exact absurd hplus (by decide)
    · obtain rfl := (List.cons.inj hds).2
      exact ⟨hne, hdigits, hvalue⟩
  · rintro ⟨hne, hdigits, hvalue⟩
    exact ⟨cs, .inr rfl, hne, hdigits, hvalue⟩

/-- The numerals of the numbers below the bound are read, and nothing else is. -/
theorem readNatural_eq_ok_iff {bound : Nat} (hbound : 0 < bound) {cs : List Char} {n : Nat} :
    readNatural bound cs = .ok n ↔ IsNumeral cs n ∧ n < bound := by
  cases cs with
  | nil =>
    rw [readNatural]
    simp only [reduceCtorEq, false_iff]
    rintro ⟨⟨ds, hds | hds, hne, -⟩, -⟩
    · exact hne hds.symm
    · cases hds
  | cons c cs =>
    by_cases hc : c = '+'
    · subst hc
      rw [isNumeral_plus_iff]
      cases cs with
      | nil => simp [readNatural]
      | cons d ds =>
        rw [readNatural, readDigits_eq_ok_iff hbound]
        · simp [and_assoc]
        · exact List.cons_ne_nil d ds
    · have hread : readNatural bound (c :: cs) = readDigits bound 0 (c :: cs) := by
        rw [readNatural]
        · exact nofun
        · rintro ⟨⟩
          exact hc rfl
        · rintro ds ⟨⟩
          exact hc rfl
      rw [hread, readDigits_eq_ok_iff hbound, isNumeral_iff_of_ne_plus hc, and_assoc]

/-- A word is read from its numerals. -/
theorem readWord32_eq_ok_iff {s : String} {n : UInt32} :
    readWord32 s = .ok n ↔ IsNumeral s.toList n.toNat := by
  rw [readWord32, Outcome.map_eq_ok_iff]
  constructor
  · rintro ⟨m, hm, rfl⟩
    obtain ⟨hnumeral, hlt⟩ := (readNatural_eq_ok_iff (by decide)).mp hm
    rwa [UInt32.toNat_ofNat_of_lt' hlt]
  · intro hnumeral
    exact ⟨n.toNat, (readNatural_eq_ok_iff (by decide)).mpr ⟨hnumeral, n.toNat_lt⟩,
      UInt32.ofNat_toNat⟩

/-- The digits of a number are a numeral of it. -/
theorem isNumeral_toDigits (n : Nat) : IsNumeral (Nat.toDigits 10 n) n :=
  ⟨_, .inl rfl, Nat.toDigits_ne_nil, fun _ hc => isDigit_of_mem_toDigits hc,
    Nat.ofDigitChars_ten_toDigits⟩

/-- A word is read from its decimal text. -/
theorem readWord32_toString (n : UInt32) : readWord32 (toString n.toNat) = .ok n := by
  rw [readWord32_eq_ok_iff, Nat.toString_eq_repr, Nat.toList_repr]
  exact isNumeral_toDigits n.toNat

end EdgeConsole.Number

namespace EdgeConsole.Json

/-! ## Literals -/

/-- A significand takes up all digits if the number fits. -/
theorem gather_eq {cs : List Char} {n : Nat} (h : Nat.ofDigitChars 10 cs n < UInt64.size) :
    gather n cs = (Nat.ofDigitChars 10 cs n, []) := by
  induction cs generalizing n with
  | nil => rfl
  | cons c cs ih =>
    rw [Nat.ofDigitChars_cons] at h ⊢
    have hnext := EdgeConsole.Number.le_ofDigitChars cs (10 * n + (c.toNat - '0'.toNat))
    have hlt : n * 10 + digitValue c < UInt64.size := by
      rw [digitValue]
      omega
    simp only [gather, hlt, if_true]
    rw [digitValue, Nat.mul_comm n 10]
    exact ih h

/-- The digits of a number of 64 bits are a literal of that number. -/
theorem value?_toDigits {n : Nat} (h : n < UInt64.size) :
    (Literal.mk false (Nat.toDigits 10 n) none none).value? = some (.integer n) := by
  have hvalue : Nat.ofDigitChars 10 (Nat.toDigits 10 n) 0 = n := Nat.ofDigitChars_ten_toDigits
  have hbound : Nat.ofDigitChars 10 (Nat.toDigits 10 n) 0 < UInt64.size := by
    rw [hvalue]
    exact h
  have hgather := gather_eq hbound
  rw [hvalue] at hgather
  simp only [Literal.value?, hgather, Bool.not_false, if_true]

end EdgeConsole.Json
