import EdgeConsole.Proofs.Calendar.Years
import EdgeConsole.Proofs.Resource.Kind

/-!
# Times that were read and are written

A time is read from a local time with any offset, and written in universal time. The text that is
written is read as the same time again, to the nanosecond and with its leap second, as long as the
year in universal time has four digits; and no text of another time is read at all, because its year
has a sign (`Setting.reread_instant`). Such a time is read, at either end of the years of four
digits (`Setting.reread_instant_refused`).
-/

namespace EdgeConsole.Resource

open Json (Outline)
open Calendar (Date Instant Timestamp.write)

/-- A written time is a text of a JSON value. -/
theorem readText_written_instant (depth : Nat) (t : Instant) :
    Json.readText (Setting.instant.read depth) (Setting.instant.write t).compact =
      readInstant (.atom (.text (Timestamp.write t))) := by
  rw [Json.readText_compact _ (Setting.isExact_write .instant t), Setting.write, Outline.ofJson,
    Setting.read]

/-- A time that was read is read again from what is written of it, and as that very time, if its
year in universal time has four digits. Otherwise it is a time of one of the two days beside those
years, and what is written of it is refused. -/
theorem Setting.reread_instant {depth : Nat} {o : Outline} {t : Instant}
    (h : Setting.instant.read depth o = .ok (some t)) :
    (t.date.HasFourDigits →
      Json.readText (Setting.instant.read depth) (Setting.instant.write t).compact =
        .ok (some t)) ∧
    (¬t.date.HasFourDigits →
      (t.date = Date.beforeYears ∨ t.date = Date.afterYears) ∧
      Json.readText (Setting.instant.read depth) (Setting.instant.write t).compact =
        .error (.data (.badTimestamp (Timestamp.write t) .invalid))) := by
  obtain ⟨s, hs⟩ := exists_read_of_readInstant h
  rw [readText_written_instant]
  constructor
  · intro hyear
    exact readInstant_write hyear (Calendar.Timestamp.isRegular_of_read hs)
  · intro hyear
    obtain hfour | hbeside := Calendar.Timestamp.date_of_read hs
    · exact absurd hfour hyear
    · refine ⟨hbeside, ?_⟩
      rw [readInstant_text_write, Calendar.Timestamp.read_write_of_not_hasFourDigits hyear]

/-- The case of a leap second with a fraction, in a place where the new year has begun. -/
theorem Setting.reread_instant_leap :
    ∃ t, Setting.instant.read 127 (.atom (.text " 2017-01-01t05:29:60.000000001+05:30 ")) =
        .ok (some t) ∧
      t.date.HasFourDigits ∧
      Json.readText (Setting.instant.read 127) (Setting.instant.write t).compact =
        .ok (some t) := by
  have hread : Setting.instant.read 127
      (.atom (.text " 2017-01-01t05:29:60.000000001+05:30 ")) =
        .ok (some ⟨⟨2016, 12, 31, by decide⟩,
          { hour := 23, minute := 59, second := 59, nano := 1000000001 }⟩) := rfl
  have hyear : Date.HasFourDigits ⟨2016, 12, 31, by decide⟩ := ⟨by decide, by decide⟩
  exact ⟨_, hread, hyear, (Setting.reread_instant hread).1 hyear⟩

/-- The last half hour of the year 9999 in a place to the west is read, and written as a text that
is not. -/
theorem Setting.reread_instant_refused :
    ∃ t, Json.readText (Setting.instant.read 127) "\"9999-12-31T23:30:00-01:00\"" = .ok (some t) ∧
      (Setting.instant.write t).compact = "\"+10000-01-01T00:30:00Z\"" ∧
      Json.readText (Setting.instant.read 127) "\"+10000-01-01T00:30:00Z\"" =
        .error (.data (.badTimestamp "+10000-01-01T00:30:00Z" .invalid)) :=
  ⟨⟨Date.afterYears, { hour := 0, minute := 30, second := 0, nano := 0 }⟩, rfl, by decide, rfl⟩

end EdgeConsole.Resource
