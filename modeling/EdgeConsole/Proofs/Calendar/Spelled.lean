import EdgeConsole.Proofs.Calendar.Timestamp

/-!
# The date at the front of a timestamp

Whatever spelling of a timestamp is accepted, its front is the date in the one form in which dates
are written (`exists_date_of_read`): each reader of a field takes just the text of the field away.
Such a date has ten characters of a byte each (`utf8ByteSize_dateChars`).
-/

namespace EdgeConsole.Calendar

namespace Timestamp

open Outcome (bind_eq_ok_iff)

/-! ## Fields -/

theorem eq_of_digit {cs rest : List Char} {n : Nat} (h : digit cs = .ok (n, rest)) :
    cs = Char.ofNat (48 + n) :: rest := by
  cases cs with
  | nil => cases h
  | cons c cs =>
    rw [digit] at h
    split at h
    · next hdigit =>
      obtain ⟨rfl, rfl⟩ := Prod.mk.inj (Except.ok.inj h)
      have hcode : 48 + (c.toNat - '0'.toNat) = c.toNat :=
        Nat.add_sub_cancel' (Char.isDigit_iff_toNat.mp hdigit).1
      rw [hcode, Char.ofNat_toNat]
    · cases h

theorem eq_of_twoDigits {cs rest : List Char} {n : Nat} (h : twoDigits cs = .ok (n, rest)) :
    cs = two n ++ rest := by
  obtain ⟨⟨a, _⟩, ha, h⟩ := bind_eq_ok_iff.mp h
  obtain ⟨⟨b, _⟩, hb, h⟩ := bind_eq_ok_iff.mp h
  obtain ⟨rfl, rfl⟩ := Prod.mk.inj (Except.ok.inj h)
  have hhigh := digit_lt ha
  have hlow := digit_lt hb
  have htens : (a * 10 + b) / 10 % 10 = a := by omega
  have hones : (a * 10 + b) % 10 = b := by omega
  rw [two, htens, hones, eq_of_digit ha, eq_of_digit hb]
  rfl

theorem eq_of_expect {c : Char} {cs rest : List Char} (h : expect c cs = .ok rest) :
    cs = c :: rest := by
  cases cs with
  | nil => cases h
  | cons d cs =>
    rw [expect] at h
    split at h
    · next hsame =>
      obtain rfl := Except.ok.inj h
      rw [hsame]
    · cases h

theorem exists_separator {cs rest : List Char} (h : passSeparator cs = .ok rest) :
    ∃ c, (c = 'T' ∨ c = 't' ∨ c = ' ') ∧ cs = c :: rest := by
  cases cs with
  | nil => cases h
  | cons c cs =>
    rw [passSeparator] at h
    split at h
    · next hletter =>
      obtain rfl := Except.ok.inj h
      exact ⟨c, hletter, rfl⟩
    · cases h

/-- A date is read only from the text that it is written in. -/
theorem eq_of_readDate {cs rest : List Char} {d : Date} (h : readDate cs = .ok (d, rest)) :
    cs = dateChars d ++ rest := by
  unfold readDate at h
  simp only [bind_eq_ok_iff] at h
  obtain ⟨⟨century, _⟩, hcentury, ⟨years, _⟩, hyears, _, hdash, ⟨month, _⟩, hmonth, _, hdash',
    ⟨day, _⟩, hday, h⟩ := h
  dsimp only at hyears hdash hmonth hdash' hday h
  have hhigh := twoDigits_lt hcentury
  have hlow := twoDigits_lt hyears
  split at h
  · next date hdate =>
    obtain ⟨rfl, rfl⟩ := Prod.mk.inj (Except.ok.inj h)
    obtain ⟨hyear, rfl, rfl⟩ := Date.parts_of_of? hdate
    have hdigits : 0 ≤ date.year ∧ date.year ≤ 9999 := by omega
    have hfront : date.year.toNat / 100 = century := by omega
    have hback : date.year.toNat % 100 = years := by omega
    rw [dateChars, yearChars, if_pos hdigits, hfront, hback, eq_of_twoDigits hcentury,
      eq_of_twoDigits hyears, eq_of_expect hdash, eq_of_twoDigits hmonth, eq_of_expect hdash',
      eq_of_twoDigits hday]
    simp only [List.append_assoc, List.cons_append]
  · cases h

/-! ## Whole timestamps -/

/-- A timestamp begins with the date that it is read with, and a letter behind it. -/
theorem exists_date_of_read {s : String} {t : Instant} (h : read s = .ok t) :
    ∃ date clock offset letter rest, date.HasFourDigits ∧
      (letter = 'T' ∨ letter = 't' ∨ letter = ' ') ∧
      s.toList = dateChars date ++ letter :: rest ∧ t = Instant.ofLocal date clock offset := by
  obtain ⟨date, clock, offset, _, rest, _, hdate, hseparator, -, ht⟩ := exists_parts_of_read h
  obtain ⟨letter, hletter, hrest⟩ := exists_separator hseparator
  refine ⟨date, clock, offset, letter, rest, hasFourDigits_of_readDate hdate, hletter, ?_, ht⟩
  rw [← hrest]
  exact eq_of_readDate hdate

/-- The characters of an instant take a byte each. -/
theorem utf8Size_of_isStampChar {c : Char} (h : isStampChar c = true) : c.utf8Size = 1 := by
  have hcode : c.toNat ≤ 127 := by
    simp only [isStampChar, Bool.or_eq_true, beq_iff_eq, Char.isDigit_iff_toNat] at h
    rcases h with (((((h | rfl) | rfl) | rfl) | rfl) | rfl) | rfl
    · exact Nat.le_trans h.2 (by decide)
    all_goals decide
  exact Char.utf8Size_eq_one_iff.mpr hcode

theorem all_dateChars (d : Date) : (dateChars d).all isStampChar = true := by
  have hminus : isStampChar '-' = true := by decide
  simp [dateChars, all_yearChars, all_two, hminus]

theorem length_dateChars {d : Date} (h : d.HasFourDigits) : (dateChars d).length = 10 := by
  rw [dateChars, yearChars, if_pos ⟨h.1, h.2⟩]
  rfl

/-- A date in a year of four digits takes ten bytes. -/
theorem utf8ByteSize_dateChars {d : Date} (h : d.HasFourDigits) :
    (String.ofList (dateChars d)).utf8ByteSize = 10 := by
  rw [Text.utf8ByteSize_ofList_of_single, length_dateChars h]
  exact fun c hc => utf8Size_of_isStampChar (List.all_eq_true.mp (all_dateChars d) c hc)

end Timestamp

end EdgeConsole.Calendar
