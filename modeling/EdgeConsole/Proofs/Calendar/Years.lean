import EdgeConsole.Proofs.Calendar.Timestamp

/-!
# Years that an offset leads out of

A timestamp has a year of four digits, but that is the year of a local time. Taking the offset away
can lead to the day before or the day after, and so out of those years: to the last day before the
year 0 or to the first day after the year 9999, and to no other day (`date_of_read`).

The text of an instant shows a year that has not four digits with a sign, which no timestamp begins
with. So of the instants that were read just these are not read again from their own text
(`read_write_of_not_hasFourDigits`).
-/

namespace EdgeConsole.Calendar

namespace Date

/-- The last day before the year 0. -/
def beforeYears : Date := ⟨-1, 12, 31, by decide⟩

/-- The first day after the year 9999. -/
def afterYears : Date := ⟨10000, 1, 1, by decide⟩

/-- A day in a year of four digits, or one of the two days beside those years. -/
def IsWithinReach (d : Date) : Prop :=
  d.HasFourDigits ∨ d = beforeYears ∨ d = afterYears

theorem eq_of_parts {d d' : Date} (hyear : d.year = d'.year) (hmonth : d.month = d'.month)
    (hday : d.day = d'.day) : d = d' := by
  cases d
  cases d'
  cases hyear
  cases hmonth
  cases hday
  rfl

/-- The day before is in the same year, except for the first day of a year. -/
theorem year_previous (d : Date) :
    d.previous.year = d.year ∨
      d.previous.year = d.year - 1 ∧ d.previous.month = 12 ∧ d.previous.day = 31 := by
  unfold previous
  split
  · exact .inl rfl
  · split
    · exact .inl rfl
    · exact .inr ⟨rfl, rfl, rfl⟩

/-- The day after is in the same year, except for the last day of a year. -/
theorem year_next (d : Date) :
    d.next.year = d.year ∨
      d.next.year = d.year + 1 ∧ d.next.month = 1 ∧ d.next.day = 1 := by
  unfold next
  split
  · exact .inl rfl
  · split
    · exact .inl rfl
    · exact .inr ⟨rfl, rfl, rfl⟩

theorem isWithinReach_previous {d : Date} (h : d.HasFourDigits) : d.previous.IsWithinReach := by
  obtain ⟨hlow, hhigh⟩ := h
  obtain hsame | ⟨hyear, hmonth, hday⟩ := d.year_previous
  · exact .inl ⟨by omega, by omega⟩
  · by_cases hzero : d.year = 0
    · exact .inr (.inl (eq_of_parts (by rw [hyear, hzero]; rfl) hmonth hday))
    · exact .inl ⟨by omega, by omega⟩

theorem isWithinReach_next {d : Date} (h : d.HasFourDigits) : d.next.IsWithinReach := by
  obtain ⟨hlow, hhigh⟩ := h
  obtain hsame | ⟨hyear, hmonth, hday⟩ := d.year_next
  · exact .inl ⟨by omega, by omega⟩
  · by_cases hlast : d.year = 9999
    · exact .inr (.inr (eq_of_parts (by rw [hyear, hlast]; rfl) hmonth hday))
    · exact .inl ⟨by omega, by omega⟩

end Date

/-- A local time is less than a day away from universal time. -/
theorem Instant.date_ofLocal (date : Date) (clock : Clock) (offset : Offset) :
    (ofLocal date clock offset).date = date ∨ (ofLocal date clock offset).date = date.previous ∨
      (ofLocal date clock offset).date = date.next := by
  unfold ofLocal
  dsimp only
  split
  · exact .inr (.inl rfl)
  · split
    · exact .inr (.inr rfl)
    · exact .inl rfl

namespace Timestamp

/-- The date of an instant that was read is in a year of four digits or on one of the two days
beside them. -/
theorem date_of_read {s : String} {t : Instant} (h : read s = .ok t) : t.date.IsWithinReach := by
  obtain ⟨date, clock, offset, hdate, -, rfl⟩ := exists_ofLocal_of_read h
  obtain hsame | hprevious | hnext := Instant.date_ofLocal date clock offset
  · rw [hsame]
    exact .inl hdate
  · rw [hprevious]
    exact Date.isWithinReach_previous hdate
  · rw [hnext]
    exact Date.isWithinReach_next hdate

/-- A year that has not four digits is written with a sign and four digits or more. -/
theorem exists_sign_of_yearChars {year : Int} (h : ¬(0 ≤ year ∧ year ≤ 9999)) :
    ∃ sign digits, yearChars year = sign :: digits ∧ sign.isDigit = false ∧ 4 ≤ digits.length := by
  rw [yearChars, if_neg h]
  refine ⟨_, _, rfl, ?_, ?_⟩
  · split <;> decide
  · simp
    omega

/-- An instant whose year has not four digits is not read from its text. -/
theorem read_write_of_not_hasFourDigits {t : Instant} (h : ¬t.date.HasFourDigits) :
    read (write t) = .error .invalid := by
  obtain ⟨sign, digits, hyear, hsign, hdigits⟩ := exists_sign_of_yearChars h
  let rest := '-' :: two t.date.month ++ '-' :: two t.date.day ++ 'T' :: clockChars t.clock ++
    fractionChars (t.clock.nano % 1000000000) ++ ['Z']
  have hwrite : write t = String.ofList (sign :: (digits ++ rest)) := by
    simp [write, dateChars, hyear, rest]
  have hlength : leastSize ≤ (sign :: (digits ++ rest)).length := by
    simp [rest, two, clockChars, leastSize]
    omega
  have hsize := Nat.le_trans hlength (Text.length_le_utf8ByteSize _)
  have hread : readDate (sign :: (digits ++ rest)) = .error .invalid := by
    simp [readDate, twoDigits, digit, hsign, bind, Except.bind]
  rw [hwrite]
  simp only [read, bind, Except.bind, if_neg (Nat.not_lt.mpr hsize), String.toList_ofList, hread]

end Timestamp

end EdgeConsole.Calendar
