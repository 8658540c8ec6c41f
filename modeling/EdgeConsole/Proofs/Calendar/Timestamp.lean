import Mathlib.Algebra.Group.Nat.Defs
import EdgeConsole.Calendar.Timestamp
import EdgeConsole.Proofs.Outcome
import EdgeConsole.Proofs.Text.Utf8

/-!
# Timestamps that were read

An instant that was read counts a leap second from second 59, whatever the offset was
(`isRegular_of_read`). For such an instant in a year of four digits the written text is read back as
the same instant (`read_write`), and so is the text without its fraction if there is none to lose
(`read_writeSeconds`).

Reading goes field by field, so there is one lemma for each: what is written of the field, with any
text behind it, is read as the field and leaves that text.
-/

namespace EdgeConsole.Calendar

/-- A leap second is counted from second 59. -/
def Clock.IsRegular (c : Clock) : Prop := 1000000000 ≤ c.nano → c.second = 59

/-- The year can be written in four digits. -/
def Date.HasFourDigits (d : Date) : Prop := 0 ≤ d.year ∧ d.year ≤ 9999

instance (d : Date) : Decidable d.HasFourDigits := inferInstanceAs (Decidable (_ ∧ _))

namespace Timestamp

open Outcome (bind_eq_ok_iff)

/-! ## Digits -/

/-- A digit as a character. -/
theorem digit_ofNat : ∀ k < 10, (Char.ofNat (48 + k)).isDigit = true ∧
    (Char.ofNat (48 + k)).toNat - 48 = k := by
  decide

theorem digit_cons {k : Nat} (h : k < 10) (cs : List Char) :
    digit (Char.ofNat (48 + k) :: cs) = .ok (k, cs) := by
  simp [digit, digit_ofNat k h]

theorem twoDigits_two {n : Nat} (h : n < 100) (cs : List Char) :
    twoDigits (two n ++ cs) = .ok (n, cs) := by
  have hvalue : n / 10 % 10 * 10 + n % 10 = n := by omega
  simp only [twoDigits, two, List.cons_append, List.nil_append, bind, Except.bind,
    digit_cons (show n / 10 % 10 < 10 by omega), digit_cons (show n % 10 < 10 by omega)]
  exact congrArg (fun v => Except.ok (v, cs)) hvalue

/-! ## Dates -/

theorem Date.of?_eq_some (d : Date) : Date.of? d.year d.month d.day = some d := by
  rw [Date.of?, dif_pos d.isDate]

theorem Date.parts_of_of? {year : Int} {month day : Nat} {d : Date}
    (h : Date.of? year month day = some d) : d.year = year ∧ d.month = month ∧ d.day = day := by
  unfold Date.of? at h
  split at h
  · obtain rfl := Option.some.inj h
    exact ⟨rfl, rfl, rfl⟩
  · cases h

theorem daysInMonth_le (year : Int) (month : Nat) : daysInMonth year month ≤ 31 := by
  unfold daysInMonth
  split <;> split <;> decide

theorem readDate_dateChars {d : Date} (h : d.HasFourDigits) (cs : List Char) :
    readDate (dateChars d ++ cs) = .ok (d, cs) := by
  obtain ⟨hlow, hhigh⟩ := h
  obtain ⟨hmonth, hmonth', hday, hday'⟩ := d.isDate
  have hdays := daysInMonth_le d.year d.month
  have hyear : ((d.year.toNat / 100 * 100 + d.year.toNat % 100 : Nat) : Int) = d.year := by omega
  rw [dateChars, yearChars, if_pos ⟨hlow, hhigh⟩]
  simp only [readDate, List.append_assoc, List.cons_append, bind, Except.bind, expect, if_true,
    twoDigits_two (show d.year.toNat / 100 < 100 by omega),
    twoDigits_two (show d.year.toNat % 100 < 100 by omega),
    twoDigits_two (show d.month < 100 by omega), twoDigits_two (show d.day < 100 by omega)]
  rw [hyear, Date.of?_eq_some]
  rfl

/-! ## Times of day -/

/-- Three digits shift a value by a thousand and are added to it. -/
theorem foldl_three {n : Nat} (h : n < 1000) (acc : Nat) :
    (three n).foldl (fun v c => v * 10 + (c.toNat - '0'.toNat)) acc = acc * 1000 + n := by
  simp only [three, two, List.foldl_cons, List.foldl_nil, Char.reduceToNat,
    (digit_ofNat (n / 100 % 10) (by omega)).2, (digit_ofNat (n % 100 / 10 % 10) (by omega)).2,
    (digit_ofNat (n % 100 % 10) (by omega)).2]
  omega

theorem isDigit_of_mem_three {n : Nat} {c : Char} (h : c ∈ three n) : c.isDigit = true := by
  simp only [three, two, List.mem_cons, List.not_mem_nil, or_false] at h
  rcases h with rfl | rfl | rfl
  · exact (digit_ofNat _ (by omega)).1
  · exact (digit_ofNat _ (by omega)).1
  · exact (digit_ofNat _ (by omega)).1

/-- The fraction ends where the letter of the offset stands. -/
theorem readFraction_append {ds : List Char} (hne : ds ≠ []) (hds : ∀ c ∈ ds, c.isDigit = true)
    (cs : List Char) : readFraction ('.' :: ds ++ 'Z' :: cs) = .ok (nanos ds, 'Z' :: cs) := by
  have htake : (ds ++ 'Z' :: cs).takeWhile Char.isDigit = ds := by
    rw [List.takeWhile_append_of_pos hds]
    simp
  have hdrop : (ds ++ 'Z' :: cs).dropWhile Char.isDigit = 'Z' :: cs := by
    rw [List.dropWhile_append_of_pos hds]
    simp
  rw [List.cons_append, readFraction, htake, hdrop]
  cases ds with
  | nil => exact absurd rfl hne
  | cons c ds => rfl

theorem nanos_eq {ds : List Char} (h : ds.length ≤ 9) :
    nanos ds =
      ds.foldl (fun v c => v * 10 + (c.toNat - '0'.toNat)) 0 * Nat.pow 10 (9 - ds.length) := by
  rw [nanos, List.take_of_length_le h]

/-- A fraction is written in the fewest groups of three digits that lose nothing of it. -/
theorem readFraction_fractionChars {nano : Nat} (h : nano < 1000000000) (cs : List Char) :
    readFraction (fractionChars nano ++ 'Z' :: cs) = .ok (nano, 'Z' :: cs) := by
  have hmilli : nano / 1000000 < 1000 := by omega
  have hmicro : nano / 1000 % 1000 < 1000 := by omega
  have hrest : nano % 1000 < 1000 := by omega
  have hlength (n : Nat) : (three n).length = 3 := rfl
  unfold fractionChars
  split
  · next hzero => rw [hzero]; rfl
  split
  · next hthree =>
    rw [readFraction_append (by simp [three]) fun c hc => isDigit_of_mem_three hc,
      nanos_eq (by simp [hlength]), foldl_three hmilli]
    have hvalue : (0 * 1000 + nano / 1000000) * 1000000 = nano := by omega
    exact congrArg (fun v => Except.ok (v, 'Z' :: cs)) hvalue
  have hdigits : ∀ c ∈ three (nano / 1000000) ++ three (nano / 1000 % 1000), c.isDigit = true := by
    intro c hc
    rcases List.mem_append.mp hc with hc | hc <;> exact isDigit_of_mem_three hc
  split
  · next hsix =>
    rw [List.cons_append, readFraction_append (by simp [three]) hdigits,
      nanos_eq (by simp [hlength]), List.foldl_append, foldl_three hmilli, foldl_three hmicro]
    have hvalue : ((0 * 1000 + nano / 1000000) * 1000 + nano / 1000 % 1000) * 1000 = nano := by
      omega
    exact congrArg (fun v => Except.ok (v, 'Z' :: cs)) hvalue
  · rw [List.cons_append, List.cons_append, readFraction_append (by simp [three]),
      nanos_eq (by simp [hlength]), List.foldl_append, List.foldl_append, foldl_three hmilli,
      foldl_three hmicro, foldl_three hrest]
    · have hvalue : (((0 * 1000 + nano / 1000000) * 1000 + nano / 1000 % 1000) * 1000 +
          nano % 1000) * 1 = nano := by
        omega
      exact congrArg (fun v => Except.ok (v, 'Z' :: cs)) hvalue
    · intro c hc
      rcases List.mem_append.mp hc with hc | hc
      · exact hdigits c hc
      · exact isDigit_of_mem_three hc

/-- A time of day is read from its hours, minutes, seconds and fraction. -/
theorem readClock_clockChars {c : Clock} (h : c.IsRegular) {fraction : List Char} {nano : Nat}
    (hfraction : ∀ cs, readFraction (fraction ++ 'Z' :: cs) = .ok (nano, 'Z' :: cs))
    (hnano : c.nano % 1000000000 = nano) (cs : List Char) :
    readClock (clockChars c ++ fraction ++ 'Z' :: cs) = .ok (c, 'Z' :: cs) := by
  have hhour := c.hour_lt
  have hminute := c.minute_lt
  have hsecond := c.second_lt
  have hbound := c.nano_lt
  have hshown : shownSecond c < 100 := by
    unfold shownSecond
    split <;> omega
  simp only [readClock, clockChars, List.append_assoc, List.cons_append, bind, Except.bind, expect,
    if_true, twoDigits_two (show c.hour < 100 by omega), twoDigits_two (show c.minute < 100 by omega),
    twoDigits_two hshown, hfraction]
  have hclock : (if shownSecond c = 60 then Clock.of? c.hour c.minute 59 (1000000000 + nano)
      else Clock.of? c.hour c.minute (shownSecond c) nano) = some c := by
    unfold shownSecond
    by_cases hleap : 1000000000 ≤ c.nano
    · have hlast : c.second = 59 := h hleap
      have hwhole : 1000000000 + nano = c.nano := by omega
      rw [if_pos hleap, if_pos (by omega), hwhole, ← hlast, Clock.of?,
        dif_pos ⟨hhour, hminute, hsecond, hbound⟩]
    · have hwhole : nano = c.nano := by omega
      rw [if_neg hleap, if_neg (by omega), hwhole, Clock.of?,
        dif_pos ⟨hhour, hminute, hsecond, hbound⟩]
  rw [hclock]
  rfl

/-! ## Whole timestamps -/

/-- In universal time a local time is the instant itself. -/
theorem ofLocal_zero (date : Date) (clock : Clock) :
    Instant.ofLocal date clock ⟨0, by decide, by decide⟩ = ⟨date, clock⟩ := by
  obtain ⟨hour, minute, second, nano, hhour, hminute, hsecond, hnano⟩ := clock
  have htotal : ((hour * 60 + minute : Nat) - 0 : Int).toNat = hour * 60 + minute := by omega
  have hparts : (hour * 60 + minute) / 60 = hour ∧ (hour * 60 + minute) % 60 = minute := by omega
  unfold Instant.ofLocal
  dsimp only
  rw [dif_neg (by omega), dif_neg (by omega)]
  simp only [Clock.atMinute, htotal, hparts]

/-- The text of a date and a time, with a fraction that can be read, is read as that instant. -/
theorem read_ofList {t : Instant} (hdate : t.date.HasFourDigits) (hclock : t.clock.IsRegular)
    {fraction : List Char} {nano : Nat}
    (hfraction : ∀ cs, readFraction (fraction ++ 'Z' :: cs) = .ok (nano, 'Z' :: cs))
    (hnano : t.clock.nano % 1000000000 = nano) :
    read (String.ofList (dateChars t.date ++ 'T' :: clockChars t.clock ++ fraction ++ ['Z'])) =
      .ok t := by
  have hchars : dateChars t.date ++ 'T' :: clockChars t.clock ++ fraction ++ ['Z'] =
      dateChars t.date ++ 'T' :: (clockChars t.clock ++ fraction ++ ['Z']) := by
    simp
  have hlength :
      leastSize ≤ (dateChars t.date ++ 'T' :: (clockChars t.clock ++ fraction ++ ['Z'])).length := by
    rw [dateChars, yearChars, if_pos ⟨hdate.1, hdate.2⟩]
    simp [two, clockChars, leastSize]
  have hsize := Nat.le_trans hlength (Text.length_le_utf8ByteSize _)
  have hoffset : Offset.of? 0 = some ⟨0, by decide, by decide⟩ := rfl
  rw [hchars]
  simp only [read, bind, Except.bind, if_neg (Nat.not_lt.mpr hsize), String.toList_ofList,
    readDate_dateChars hdate, passSeparator, if_true, true_or,
    readClock_clockChars hclock hfraction hnano, readOffset, hoffset, ofLocal_zero]
  rfl

/-- The text of an instant is read as that instant. -/
theorem read_write {t : Instant} (hdate : t.date.HasFourDigits) (hclock : t.clock.IsRegular) :
    read (write t) = .ok t := by
  have hnano : t.clock.nano % 1000000000 < 1000000000 := Nat.mod_lt _ (by decide)
  exact read_ofList hdate hclock (readFraction_fractionChars hnano) rfl

/-- The text of an instant without its fraction is read as that instant, if it has none. -/
theorem read_writeSeconds {t : Instant} (hdate : t.date.HasFourDigits)
    (hclock : t.clock.IsRegular) (hnano : t.clock.nano % 1000000000 = 0) :
    read (writeSeconds t) = .ok t := by
  have hfraction (cs : List Char) : readFraction ([] ++ 'Z' :: cs) = .ok (0, 'Z' :: cs) := rfl
  have hread := read_ofList hdate hclock hfraction hnano
  rw [List.append_nil] at hread
  exact hread

/-! ## Numerals -/

/-- The digits of a number, with zeros before them if there are fewer than asked for. -/
def numeral (width n : Nat) : List Char := (Nat.toDigits 10 n).leftpad width '0'

/-- The numeral of a year: four digits, or a sign and as many digits as it takes. -/
def yearNumeral (year : Int) : List Char :=
  if 0 ≤ year ∧ year ≤ 9999 then numeral 4 year.toNat
  else (if year < 0 then '-' else '+') :: numeral 4 year.natAbs

theorem two_eq_numeral : ∀ {n : Nat}, n < 100 → two n = numeral 2 n := by decide

theorem two_mod (n : Nat) : two (n % 100) = [(n / 10 % 10).digitChar, (n % 10).digitChar] := by
  have hdigit : ∀ k < 10, Char.ofNat (48 + k) = k.digitChar := by decide
  have hhigh : n % 100 / 10 % 10 = n / 10 % 10 := by omega
  have hlow : n % 100 % 10 = n % 10 := by omega
  rw [two, hhigh, hlow, hdigit _ (by omega), hdigit _ (by omega)]

/-- Two numerals of two digits are one of four. -/
theorem two_append_two {n : Nat} (h : n < 10000) :
    two (n / 100) ++ two (n % 100) = numeral 4 n := by
  by_cases hshort : n < 100
  · have hsmall : ∀ m < 100, two (m / 100) ++ two (m % 100) = numeral 4 m := by decide
    exact hsmall n hshort
  · have hdigits : Nat.toDigits 10 n =
        Nat.toDigits 10 (n / 100) ++ [(n / 10 % 10).digitChar, (n % 10).digitChar] := by
      rw [Nat.toDigits_of_base_le (by decide) (by omega), Nat.toDigits_of_base_le (by decide) (by omega),
        Nat.div_div_eq_div_mul, List.append_assoc]
      rfl
    have hwidth : 4 - ((Nat.toDigits 10 (n / 100)).length + 2) = 2 - (Nat.toDigits 10 (n / 100)).length := by
      omega
    rw [two_mod, two_eq_numeral (by omega), numeral, numeral, hdigits, List.leftpad, List.leftpad,
      List.length_append, List.length_cons, List.length_singleton, hwidth, List.append_assoc]

theorem yearChars_eq_numeral (year : Int) : yearChars year = yearNumeral year := by
  rw [yearChars, yearNumeral]
  split
  · next h => exact two_append_two (by omega)
  · rfl

/-- The text of an instant to the second, in numerals. A leap second is the second after the one
that it is counted from. -/
theorem writeSeconds_eq_numerals (t : Instant) :
    writeSeconds t = String.ofList (yearNumeral t.date.year ++ '-' :: numeral 2 t.date.month ++
      '-' :: numeral 2 t.date.day ++ 'T' :: numeral 2 t.clock.hour ++
      ':' :: numeral 2 t.clock.minute ++ ':' :: numeral 2 (shownSecond t.clock) ++ ['Z']) := by
  have hdate := t.date.isDate
  have hday : daysInMonth t.date.year t.date.month < 100 := by
    unfold daysInMonth
    repeat' split
    all_goals decide
  unfold IsDate at hdate
  have hhour := t.clock.hour_lt
  have hminute := t.clock.minute_lt
  have hsecond := t.clock.second_lt
  have hshown : shownSecond t.clock < 100 := by
    unfold shownSecond
    split <;> omega
  rw [writeSeconds, dateChars, clockChars, yearChars_eq_numeral, two_eq_numeral (by omega),
    two_eq_numeral (by omega), two_eq_numeral (by omega), two_eq_numeral (by omega), two_eq_numeral hshown]
  simp

/-! ## Characters -/

/-- The characters that instants are written in. -/
def isStampChar (c : Char) : Bool :=
  c.isDigit || c == '-' || c == '+' || c == 'T' || c == ':' || c == '.' || c == 'Z'

theorem isStampChar_digit {k : Nat} (h : k < 10) : isStampChar (Char.ofNat (48 + k)) = true := by
  simp only [isStampChar, (digit_ofNat k h).1, Bool.true_or]

theorem all_two (n : Nat) : (two n).all isStampChar = true := by
  have hhigh := isStampChar_digit (show n / 10 % 10 < 10 by omega)
  have hlow := isStampChar_digit (show n % 10 < 10 by omega)
  simp [two, hhigh, hlow]

theorem all_three (n : Nat) : (three n).all isStampChar = true := by
  have hhigh := isStampChar_digit (show n / 100 % 10 < 10 by omega)
  rw [three, List.all_cons, hhigh, all_two]
  rfl

theorem all_fractionChars (nano : Nat) : (fractionChars nano).all isStampChar = true := by
  have hpoint : isStampChar '.' = true := by decide
  unfold fractionChars
  split
  · rfl
  split
  · simp [hpoint, all_three]
  split
  · simp [hpoint, all_three]
  · simp [hpoint, all_three]

theorem all_yearChars (year : Int) : (yearChars year).all isStampChar = true := by
  unfold yearChars
  split
  · simp [all_two]
  · have hsign : isStampChar (if year < 0 then '-' else '+') = true := by
      split <;> decide
    have hzero : isStampChar '0' = true := by decide
    have hdigits : ∀ c ∈ Nat.toDigits 10 year.natAbs, isStampChar c = true := by
      intro c hc
      have hdigit : c.isDigit = true := Nat.isDigit_of_mem_toDigits (by decide) (by decide) hc
      rw [isStampChar, hdigit]
      rfl
    simpa [hsign, hzero] using hdigits

/-- An instant is written in digits and a few marks. -/
theorem all_write (t : Instant) : (write t).toList.all isStampChar = true := by
  have hminus : isStampChar '-' = true := by decide
  have hletter : isStampChar 'T' = true := by decide
  have hcolon : isStampChar ':' = true := by decide
  have hzone : isStampChar 'Z' = true := by decide
  simp [write, dateChars, clockChars, all_yearChars, hminus, hletter, hcolon, hzone, all_two,
    all_fractionChars]

theorem write_ne_nil (t : Instant) : (write t).toList ≠ [] := by
  simp [write]

/-! ## What was read -/

theorem value_lt_of_isDigit {c : Char} (h : c.isDigit = true) : c.toNat - '0'.toNat < 10 := by
  simp only [Char.isDigit, Bool.and_eq_true, decide_eq_true_eq, ge_iff_le,
    UInt32.le_iff_toNat_le] at h
  have hnine : c.toNat ≤ 57 := h.2
  have hzero : '0'.toNat = 48 := rfl
  omega

theorem foldl_digits_lt {ds : List Char} (hds : ∀ c ∈ ds, c.isDigit = true) (acc : Nat) :
    ds.foldl (fun v c => v * 10 + (c.toNat - '0'.toNat)) acc < (acc + 1) * 10 ^ ds.length := by
  induction ds generalizing acc with
  | nil => simp
  | cons c ds ih =>
    have hdigit := value_lt_of_isDigit (hds c (by simp))
    have hrest := ih (fun d hd => hds d (by simp [hd])) (acc * 10 + (c.toNat - '0'.toNat))
    have hhead : (acc * 10 + (c.toNat - '0'.toNat) + 1) * 10 ^ ds.length ≤
        (acc + 1) * 10 * 10 ^ ds.length := Nat.mul_le_mul_right _ (by omega)
    rw [List.foldl_cons, List.length_cons, Nat.pow_succ', ← Nat.mul_assoc]
    exact Nat.lt_of_lt_of_le hrest hhead

/-- The digits of a fraction count less than a second. -/
theorem nanos_lt {ds : List Char} (hds : ∀ c ∈ ds, c.isDigit = true) : nanos ds < 1000000000 := by
  have hkept := foldl_digits_lt (fun c hc => hds c (List.mem_of_mem_take (i := 9) hc)) 0
  have hlength : (ds.take 9).length ≤ 9 := List.length_take_le 9 ds
  have hscaled := Nat.mul_lt_mul_of_pos_right hkept
    (Nat.pow_pos (n := 9 - (ds.take 9).length) (show 0 < 10 by decide))
  rw [Nat.zero_add, Nat.one_mul, ← Nat.pow_add, Nat.add_sub_cancel' hlength] at hscaled
  exact hscaled

theorem readFraction_lt {cs rest : List Char} {nano : Nat}
    (h : readFraction cs = .ok (nano, rest)) : nano < 1000000000 := by
  unfold readFraction at h
  split at h
  · next cs =>
    split at h
    · split at h <;> cases h
    · obtain ⟨rfl, -⟩ := Prod.mk.inj (Except.ok.inj h)
      exact nanos_lt fun c hc => List.all_eq_true.mp List.all_takeWhile c hc
  · obtain ⟨rfl, -⟩ := Prod.mk.inj (Except.ok.inj h)
    decide

theorem Clock.of?_eq_some {hour minute second nano : Nat} {c : Clock}
    (h : Clock.of? hour minute second nano = some c) : c.second = second ∧ c.nano = nano := by
  unfold Clock.of? at h
  split at h
  · obtain rfl := Option.some.inj h
    exact ⟨rfl, rfl⟩
  · cases h

/-- A second numbered 60 is the only way to write a leap second. -/
theorem isRegular_of_readClock {cs rest : List Char} {c : Clock}
    (h : readClock cs = .ok (c, rest)) : c.IsRegular := by
  unfold readClock at h
  simp only [bind_eq_ok_iff] at h
  obtain ⟨⟨hour, _⟩, -, _, -, ⟨minute, _⟩, -, _, -, ⟨second, _⟩, -, ⟨nano, _⟩, hnano, h⟩ := h
  have hlt := readFraction_lt hnano
  dsimp only at h
  split at h
  · next clock hclock =>
    obtain ⟨rfl, -⟩ := Prod.mk.inj (Except.ok.inj h)
    intro hleap
    split at hclock
    · exact (Clock.of?_eq_some hclock).1
    · have hsame := (Clock.of?_eq_some hclock).2
      omega
  · cases h

/-- An offset moves an instant by whole minutes. -/
theorem isRegular_ofLocal {date : Date} {clock : Clock} (h : clock.IsRegular) (offset : Offset) :
    (Instant.ofLocal date clock offset).clock.IsRegular := by
  unfold Instant.ofLocal
  dsimp only
  split
  · exact h
  · split <;> exact h

theorem digit_lt {cs rest : List Char} {n : Nat} (h : digit cs = .ok (n, rest)) : n < 10 := by
  cases cs with
  | nil => cases h
  | cons c cs =>
    rw [digit] at h
    split at h
    · next hdigit =>
      obtain ⟨rfl, -⟩ := Prod.mk.inj (Except.ok.inj h)
      exact value_lt_of_isDigit hdigit
    · cases h

theorem twoDigits_lt {cs rest : List Char} {n : Nat} (h : twoDigits cs = .ok (n, rest)) :
    n < 100 := by
  obtain ⟨⟨a, _⟩, ha, h⟩ := bind_eq_ok_iff.mp h
  obtain ⟨⟨b, _⟩, hb, h⟩ := bind_eq_ok_iff.mp h
  obtain ⟨rfl, -⟩ := Prod.mk.inj (Except.ok.inj h)
  have hhigh := digit_lt ha
  have hlow := digit_lt hb
  omega

/-- A timestamp has no room for a year of more digits, nor for a sign. -/
theorem hasFourDigits_of_readDate {cs rest : List Char} {d : Date}
    (h : readDate cs = .ok (d, rest)) : d.HasFourDigits := by
  unfold readDate at h
  simp only [bind_eq_ok_iff] at h
  obtain ⟨⟨century, _⟩, hcentury, ⟨years, _⟩, hyears, _, -, _, -, _, -, _, -, h⟩ := h
  have hhigh := twoDigits_lt hcentury
  have hlow := twoDigits_lt hyears
  split at h
  · next date hdate =>
    obtain ⟨rfl, -⟩ := Prod.mk.inj (Except.ok.inj h)
    have hyear := (Date.parts_of_of? hdate).1
    constructor <;> omega
  · cases h

/-- What is read is the instant of a date, a time of day behind a letter, and an offset. -/
theorem exists_parts_of_read {s : String} {t : Instant} (h : read s = .ok t) :
    ∃ date clock offset dateRest clockText clockRest,
      readDate s.toList = .ok (date, dateRest) ∧ passSeparator dateRest = .ok clockText ∧
        readClock clockText = .ok (clock, clockRest) ∧ t = Instant.ofLocal date clock offset := by
  unfold read at h
  split at h
  · cases h
  simp only [bind_eq_ok_iff] at h
  obtain ⟨⟨date, _⟩, hdate, _, hseparator, ⟨clock, _⟩, hclock, ⟨minutes, _⟩, -, h⟩ := h
  split at h
  · cases h
  split at h
  · next offset _ =>
    exact ⟨date, clock, offset, _, _, _, hdate, hseparator, hclock, (Except.ok.inj h).symm⟩
  · cases h

/-- What is read is the instant of a local time in a year of four digits. -/
theorem exists_ofLocal_of_read {s : String} {t : Instant} (h : read s = .ok t) :
    ∃ date clock offset, date.HasFourDigits ∧ clock.IsRegular ∧
      t = Instant.ofLocal date clock offset := by
  obtain ⟨date, clock, offset, _, _, _, hdate, -, hclock, ht⟩ := exists_parts_of_read h
  exact ⟨date, clock, offset, hasFourDigits_of_readDate hdate, isRegular_of_readClock hclock, ht⟩

/-- The time of day of an instant that was read counts a leap second from second 59. -/
theorem isRegular_of_read {s : String} {t : Instant} (h : read s = .ok t) :
    t.clock.IsRegular := by
  obtain ⟨date, clock, offset, -, hclock, rfl⟩ := exists_ofLocal_of_read h
  exact isRegular_ofLocal hclock offset

end Timestamp

end EdgeConsole.Calendar
