/-!
# Calendar dates

Dates of the proleptic Gregorian calendar, with a year zero and years before it. A `Date` is always
one that exists; `next` and `previous` step by a day.
-/

namespace EdgeConsole.Calendar

/-- A year with a 29th of February. -/
def isLeapYear (year : Int) : Bool :=
  year % 4 == 0 && (year % 100 != 0 || year % 400 == 0)

/-- The number of days of a month. -/
def daysInMonth (year : Int) (month : Nat) : Nat :=
  if month = 2 then if isLeapYear year then 29 else 28
  else if month = 4 ∨ month = 6 ∨ month = 9 ∨ month = 11 then 30
  else 31

theorem daysInMonth_pos (year : Int) (month : Nat) : 1 ≤ daysInMonth year month := by
  unfold daysInMonth; split <;> (try split) <;> omega

/-- The day of the month lies within the month, and the month within the year. -/
def IsDate (year : Int) (month day : Nat) : Prop :=
  1 ≤ month ∧ month ≤ 12 ∧ 1 ≤ day ∧ day ≤ daysInMonth year month

instance (year : Int) (month day : Nat) : Decidable (IsDate year month day) :=
  inferInstanceAs (Decidable (_ ∧ _ ∧ _ ∧ _))

/-- A day of the calendar. -/
structure Date where
  year : Int
  month : Nat
  day : Nat
  isDate : IsDate year month day
deriving DecidableEq

namespace Date

/-- The date with the given parts, if there is one. -/
def of? (year : Int) (month day : Nat) : Option Date :=
  if h : IsDate year month day then some ⟨year, month, day, h⟩ else none

/-- The day after. -/
def next (d : Date) : Date :=
  if h : d.day < daysInMonth d.year d.month then
    ⟨d.year, d.month, d.day + 1, by have := d.isDate; unfold IsDate at *; omega⟩
  else if h : d.month < 12 then
    ⟨d.year, d.month + 1, 1, by
      have := daysInMonth_pos d.year (d.month + 1); unfold IsDate; omega⟩
  else
    ⟨d.year + 1, 1, 1, by have := daysInMonth_pos (d.year + 1) 1; unfold IsDate; omega⟩

/-- The day before. -/
def previous (d : Date) : Date :=
  if h : 1 < d.day then
    ⟨d.year, d.month, d.day - 1, by have := d.isDate; unfold IsDate at *; omega⟩
  else if h : 1 < d.month then
    ⟨d.year, d.month - 1, daysInMonth d.year (d.month - 1), by
      have := daysInMonth_pos d.year (d.month - 1)
      have := d.isDate
      unfold IsDate at *
      omega⟩
  else
    ⟨d.year - 1, 12, daysInMonth (d.year - 1) 12, by
      have := daysInMonth_pos (d.year - 1) 12; unfold IsDate; omega⟩

end Date

end EdgeConsole.Calendar
