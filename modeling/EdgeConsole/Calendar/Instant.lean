import EdgeConsole.Calendar.Date

/-!
# Instants

An instant is a date and a time of day in UTC, to the nanosecond. A leap second is the second after
`23:59:59` of whatever minute it is written in; it is kept as a fraction of more than one second.
A local time becomes an instant by taking its offset away, which can reach into the day before or
after.
-/

namespace EdgeConsole.Calendar

/-- A time of day. `nano` counts from the start of `second` and exceeds one second in a leap second.
-/
structure Clock where
  hour : Nat
  minute : Nat
  second : Nat
  nano : Nat
  hour_lt : hour < 24 := by omega
  minute_lt : minute < 60 := by omega
  second_lt : second < 60 := by omega
  nano_lt : nano < 2000000000 := by omega
deriving DecidableEq

/-- The time of day with the given parts, if there is one. -/
def Clock.of? (hour minute second nano : Nat) : Option Clock :=
  if h : hour < 24 ∧ minute < 60 ∧ second < 60 ∧ nano < 2000000000 then
    some ⟨hour, minute, second, nano, h.1, h.2.1, h.2.2.1, h.2.2.2⟩
  else none

/-- The same second and fraction in the given minute of a day. -/
def Clock.atMinute (c : Clock) (minutes : Nat) (h : minutes < 1440) : Clock :=
  ⟨minutes / 60, minutes % 60, c.second, c.nano, by omega, by omega, c.second_lt, c.nano_lt⟩

/-- A point in time, as its date and time of day in UTC. -/
structure Instant where
  date : Date
  clock : Clock
deriving DecidableEq

/-- The offset of a local time from UTC in minutes, less than a day either way. -/
structure Offset where
  minutes : Int
  lower : -1440 < minutes := by omega
  upper : minutes < 1440 := by omega
deriving DecidableEq

/-- The offset of so many minutes, if they are less than a day. -/
def Offset.of? (minutes : Int) : Option Offset :=
  if h : -1440 < minutes ∧ minutes < 1440 then some ⟨minutes, h.1, h.2⟩ else none

/-- The instant of a local date and time. -/
def Instant.ofLocal (date : Date) (clock : Clock) (offset : Offset) : Instant :=
  let total : Int := (clock.hour * 60 + clock.minute : Nat) - offset.minutes
  have hh := clock.hour_lt
  have hm := clock.minute_lt
  have hl := offset.lower
  have hu := offset.upper
  if h : total < 0 then
    ⟨date.previous, clock.atMinute (total + 1440).toNat (by omega)⟩
  else if h' : 1440 ≤ total then
    ⟨date.next, clock.atMinute (total - 1440).toNat (by omega)⟩
  else
    ⟨date, clock.atMinute total.toNat (by omega)⟩

end EdgeConsole.Calendar
