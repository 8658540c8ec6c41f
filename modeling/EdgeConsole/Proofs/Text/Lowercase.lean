import EdgeConsole.Text.Lowercase

/-!
# What lower-casing leaves alone

All small letters stand behind the ASCII capitals, so whatever a lower-cased text has in front of
them was in the text already (`mem_of_mem_lowercase`).
-/

namespace EdgeConsole.Text

/-- The small letters of a run are characters, and none of them stands in front of the letter a. -/
theorem smalls_of_mem : ∀ r ∈ lowercaseRuns, 97 ≤ r.first + r.shift ∧
    (r.last + r.shift < 0xD800 ∨ 0xDFFF < r.first + r.shift ∧ r.last + r.shift < 0x110000) := by
  decide +kernel

theorem toNat_ofNat_of_isValidChar {n : Nat} (h : n.isValidChar) : (Char.ofNat n).toNat = n := by
  rw [Char.ofNat, dif_pos h]
  rfl

/-- A character is its own small letter, or its small letter does not stand in front of the
letter a. -/
theorem lowerChar_cases (c : Char) : lowerChar c = c ∨ 97 ≤ (lowerChar c).toNat := by
  rw [lowerChar]
  split
  · next r hfind =>
    obtain ⟨hlow, hvalid⟩ := smalls_of_mem r (List.mem_of_find?_eq_some hfind)
    have hcapital := List.find?_some hfind
    simp only [CaseRun.hasCapital, Bool.and_eq_true, decide_eq_true_eq] at hcapital
    have hcode : (((c.toNat : Int) + r.shift).toNat).isValidChar := by
      rw [Nat.isValidChar]
      omega
    rw [toNat_ofNat_of_isValidChar hcode]
    omega
  · exact .inl rfl

/-- A character in front of the letter a is kept from the text. -/
theorem mem_of_mem_lowerFrom {d : Char} (hd : d.toNat < 97) {before cs : List Char}
    (h : d ∈ lowerFrom before cs) : d ∈ cs := by
  induction cs generalizing before with
  | nil => cases h
  | cons c cs ih =>
    have hsmall (small : Char) (hcode : 97 ≤ small.toNat) : d ≠ small := by
      rintro rfl
      omega
    rw [lowerFrom, List.mem_append] at h
    rcases h with h | h
    · split at h
      · split at h
        · exact absurd (List.mem_singleton.mp h) (hsmall _ (by decide))
        · exact absurd (List.mem_singleton.mp h) (hsmall _ (by decide))
      · split at h
        · rcases List.mem_cons.mp h with h | h
          · exact absurd h (hsmall _ (by decide))
          · exact absurd (List.mem_singleton.mp h) (hsmall _ (by decide))
        · obtain hsame | hcode := lowerChar_cases c
          · rw [hsame] at h
            exact List.mem_cons.mpr (.inl (List.mem_singleton.mp h))
          · exact absurd (List.mem_singleton.mp h) (hsmall _ hcode)
    · exact List.mem_cons_of_mem c (ih h)

theorem mem_of_mem_lowercase {d : Char} (hd : d.toNat < 97) {s : String}
    (h : d ∈ (lowercase s).toList) : d ∈ s.toList := by
  rw [lowercase, String.toList_ofList] at h
  exact mem_of_mem_lowerFrom hd h

end EdgeConsole.Text
