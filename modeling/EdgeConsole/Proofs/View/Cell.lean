import EdgeConsole.Proofs.View.Path

/-!
# Dates and dashes in cells

A timestamp is shown by its first ten bytes, which is a text only if no character lies across their
end. None does: whatever stands behind it, every text that is read as a timestamp begins with an
existing date in digits and hyphens, and that is what its cell shows (`cell_of_timestamp`).

A dash stands for a value only if there is nothing else to show. No number, date, list or object is
shown as one, so a dash means null, the empty text or a dash (`cell_eq_dash_iff`).
-/

namespace EdgeConsole.View

open Calendar (Date Clock Offset Instant)
open Calendar.Timestamp (dateChars)

/-! ## Dates -/

/-- A text that is read as a timestamp begins with the date of its local time, in a year of four
digits. It can be cut behind these ten bytes, and wherever the text is shown in a cell, it is that
date. -/
theorem cell_of_timestamp {s : String} {t : Instant} (h : Calendar.Timestamp.read s = .ok t) :
    10 ≤ s.utf8ByteSize ∧ Text.isBoundary s 10 = true ∧
      ∃ (date : Date) (clock : Clock) (offset : Offset) (letter : Char) (rest : List Char),
        date.HasFourDigits ∧ t = Instant.ofLocal date clock offset ∧
        (letter = 'T' ∨ letter = 't' ∨ letter = ' ') ∧
        s.toList = dateChars date ++ letter :: rest ∧
        shortened? s = some (String.ofList (dateChars date)) ∧
        cell (.text s) = String.ofList (dateChars date) ∧
        ∀ path v, Reaches (Text.pieces '.' path) v (.text s) →
          cellAt path v = String.ofList (dateChars date) := by
  obtain ⟨date, clock, offset, letter, rest, hdate, hletter, hs, ht⟩ :=
    Calendar.Timestamp.exists_date_of_read h
  have hcut := shortened?_of_date hdate hs
  have hcell : cell (.text s) = String.ofList (dateChars date) := by
    rw [← shows_iff.mp (.timestamp h), hs,
      List.take_left' (Calendar.Timestamp.length_dateChars hdate)]
  have hsplit := Text.eq_append_of_toList_eq hs
  have hsize := Calendar.Timestamp.utf8ByteSize_dateChars hdate
  have hwide : 10 ≤ s.utf8ByteSize := by
    rw [hsplit, String.utf8ByteSize_append, hsize]
    exact Nat.le_add_right _ _
  refine ⟨hwide, Text.isBoundary_iff_exists.mpr ⟨_, _, hsplit, hsize⟩, date, clock, offset, letter,
    rest, hdate, ht, hletter, hs, hcut, hcell, fun path v hreaches => ?_⟩
  rw [cellAt_of_reaches hreaches, hcell]

/-- The case of a leap second that is spelled with a blank, with a fraction and with a minus that
takes three bytes. -/
theorem cell_of_timestamp_spelled :
    ∃ t, Calendar.Timestamp.read "2024-02-29 23:59:60.50\u221200:30" = .ok t ∧
      Text.isBoundary "2024-02-29 23:59:60.50\u221200:30" 10 = true ∧
      cell (.text "2024-02-29 23:59:60.50\u221200:30") = "2024-02-29" := by
  obtain ⟨t, ht⟩ : ∃ t, Calendar.Timestamp.read "2024-02-29 23:59:60.50\u221200:30" = .ok t :=
    ⟨_, rfl⟩
  obtain ⟨-, hplace, date, -, -, letter, rest, hdate, -, -, hs, -, hcell, -⟩ :=
    cell_of_timestamp ht
  have hfront := congrArg (List.take 10) hs
  rw [List.take_left' (Calendar.Timestamp.length_dateChars hdate)] at hfront
  rw [← hfront] at hcell
  exact ⟨t, ht, hplace, hcell⟩

/-! ## Dashes -/

/-- A decimal is written with a point or with an exponent. -/
theorem point_or_exponent_mem_chars (sign : Number.ExponentSign) (d : Number.Decimal) :
    '.' ∈ d.chars sign ∨ 'e' ∈ d.chars sign := by
  unfold Number.Decimal.chars
  split
  · left
    unfold Number.Decimal.positional
    dsimp only
    split
    · simp
    · split <;> simp
  · right
    simp [Number.Decimal.scientific]

/-- A number is not written in minus signs alone. -/
theorem exists_ne_minus_mem_chars (sign : Number.ExponentSign) (n : Json.Number) :
    ∃ c ∈ n.chars sign, c ≠ '-' := by
  cases n with
  | integer i =>
    obtain ⟨d, hmem⟩ := List.exists_mem_of_ne_nil (Nat.toDigits 10 i.natAbs) Nat.toDigits_ne_nil
    refine ⟨d, ?_, fun hminus => ?_⟩
    · rw [Json.Number.chars]
      split
      · exact List.mem_cons_of_mem _ hmem
      · exact hmem
    · have hdigit := Number.isDigit_of_mem_toDigits hmem
      rw [hminus] at hdigit
      cases hdigit
  | float x =>
    have hbody : ∃ c ∈ (if x.isZero then ['0', '.', '0'] else x.shortest.chars sign), c ≠ '-' := by
      split
      · exact ⟨'.', by decide, by decide⟩
      · obtain hpoint | hexponent := point_or_exponent_mem_chars sign x.shortest
        · exact ⟨'.', hpoint, by decide⟩
        · exact ⟨'e', hexponent, by decide⟩
    obtain ⟨c, hc, hne⟩ := hbody
    refine ⟨c, ?_, hne⟩
    rw [Json.Number.chars, Number.Binary64.chars]
    split
    · exact List.mem_cons_of_mem _ hc
    · exact hc

/-- A dash is shown for null, for the empty text and for itself. -/
theorem cell_eq_dash_iff {v : Json} :
    cell v = "-" ↔ v = .null ∨ v = .text "" ∨ v = .text "-" := by
  constructor
  · suffices hshows : ∀ s, Shows v s → s = "-" → v = .null ∨ v = .text "" ∨ v = .text "-" from
      hshows _ (shows_iff.mpr rfl)
    intro s hs hdash
    cases hs with
    | null => exact .inl rfl
    | bool b => cases b <;> exact absurd hdash (by decide)
    | number n =>
      obtain ⟨c, hc, hne⟩ := exists_ne_minus_mem_chars .plus n
      have hchars : n.chars .plus = ['-'] := String.ofList_injective hdash
      rw [hchars] at hc
      exact absurd (List.mem_singleton.mp hc) hne
    | empty => exact .inr (.inl rfl)
    | timestamp h =>
      obtain ⟨date, _, _, _, _, hdate, -, hs, -⟩ := Calendar.Timestamp.exists_date_of_read h
      rw [hs, List.take_left' (Calendar.Timestamp.length_dateChars hdate)] at hdash
      have hlength := congrArg List.length (String.ofList_injective hdash)
      rw [Calendar.Timestamp.length_dateChars hdate] at hlength
      exact absurd hlength (by decide)
    | text hne h => exact .inr (.inr (congrArg Json.text hdash))
    | list items =>
      have hchars := congrArg String.toList hdash
      rw [String.toList_append, String.toList_append] at hchars
      cases hchars
    | object members => exact absurd hdash (by decide)
  · rintro (rfl | rfl | rfl) <;> rfl

end EdgeConsole.View
