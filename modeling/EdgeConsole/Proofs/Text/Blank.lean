import EdgeConsole.Text.Blank

/-!
# Blanks around a word

Trimming takes the blanks off both sides of a word and leaves a word without blanks as it is.
-/

namespace EdgeConsole.Text

/-- No character of the word is blank. -/
def IsSolid (cs : List Char) : Prop := ∀ c ∈ cs, isBlank c = false

theorem dropWhile_isBlank {cs : List Char} (h : IsSolid cs) : cs.dropWhile isBlank = cs := by
  cases cs with
  | nil => rfl
  | cons c cs => simp [h c (by simp)]

theorem dropWhile_blanks {cs : List Char} (h : ∀ c ∈ cs, isBlank c = true) :
    cs.dropWhile isBlank = [] := by
  rw [← List.append_nil cs, List.dropWhile_append_of_pos h]
  rfl

theorem IsSolid.reverse {cs : List Char} (h : IsSolid cs) : IsSolid cs.reverse :=
  fun c hc => h c (List.mem_reverse.mp hc)

/-- A list is what stays of it when its tail is dropped, and the tail. -/
theorem exists_dropTail_append {α : Type} (p : α → Bool) (cs : List α) :
    ∃ tail, cs = dropTail p cs ++ tail ∧ ∀ c ∈ tail, p c = true := by
  refine ⟨(cs.reverse.takeWhile p).reverse, ?_, fun c hc => ?_⟩
  · rw [dropTail, ← List.reverse_append, List.takeWhile_append_dropWhile, List.reverse_reverse]
  · exact List.all_eq_true.mp (List.all_takeWhile ..) c (List.mem_reverse.mp hc)

theorem mem_of_mem_dropTail {α : Type} {p : α → Bool} {cs : List α} {c : α}
    (h : c ∈ dropTail p cs) : c ∈ cs := by
  obtain ⟨tail, hcs, -⟩ := exists_dropTail_append p cs
  rw [hcs]
  exact List.mem_append_left tail h

/-- Blanks after a word are dropped. -/
theorem dropTail_append_blanks {word after : List Char} (hword : IsSolid word)
    (hafter : ∀ c ∈ after, isBlank c = true) : dropTail isBlank (word ++ after) = word := by
  have hblank : ∀ c ∈ after.reverse, isBlank c = true :=
    fun c hc => hafter c (List.mem_reverse.mp hc)
  rw [dropTail, List.reverse_append, List.dropWhile_append_of_pos hblank,
    dropWhile_isBlank hword.reverse, List.reverse_reverse]

/-- Blanks on both sides of a word are dropped. -/
theorem trimChars_blanks {before word after : List Char} (hword : IsSolid word)
    (hbefore : ∀ c ∈ before, isBlank c = true) (hafter : ∀ c ∈ after, isBlank c = true) :
    trimChars (before ++ word ++ after) = word := by
  rw [trimChars, List.append_assoc, List.dropWhile_append_of_pos hbefore]
  cases word with
  | nil =>
    rw [List.nil_append, dropWhile_blanks hafter]
    rfl
  | cons c cs =>
    have hstop : (c :: cs ++ after).dropWhile isBlank = c :: cs ++ after := by
      simp [hword c (by simp)]
    rw [hstop, dropTail_append_blanks hword hafter]

theorem trim_blanks {before word after : List Char} (hword : IsSolid word)
    (hbefore : ∀ c ∈ before, isBlank c = true) (hafter : ∀ c ∈ after, isBlank c = true) :
    trim (String.ofList (before ++ word ++ after)) = String.ofList word := by
  rw [trim, String.toList_ofList, trimChars_blanks hword hbefore hafter]

/-- A word without blanks is trimmed to itself. -/
theorem trim_of_isSolid {word : List Char} (h : IsSolid word) :
    trim (String.ofList word) = String.ofList word := by
  have htrim : trim (String.ofList ([] ++ word ++ [])) = String.ofList word :=
    trim_blanks h nofun nofun
  rw [List.nil_append, List.append_nil] at htrim
  exact htrim

/-- Nothing is left of a blank text. -/
theorem trim_of_isBlankText {s : String} (h : isBlankText s = true) : trim s = "" := by
  have hall : ∀ c ∈ s.toList, isBlank c = true := List.all_eq_true.mp h
  rw [trim, trimChars, dropWhile_blanks hall]
  rfl

theorem isBlankText_of_mem {s : String} {c : Char} (hmem : c ∈ s.toList)
    (hc : isBlank c = false) : isBlankText s = false := by
  rw [isBlankText, List.all_eq_false]
  exact ⟨c, hmem, by simp [hc]⟩

theorem isBlank_of_isDigit {c : Char} (h : c.isDigit = true) : isBlank c = false := by
  simp only [Char.isDigit, Bool.and_eq_true, decide_eq_true_eq, ge_iff_le,
    UInt32.le_iff_toNat_le] at h
  have hlow : 48 ≤ c.toNat := h.1
  have hhigh : c.toNat ≤ 57 := h.2
  simp only [isBlank, Bool.or_eq_false_iff, Bool.and_eq_false_iff, decide_eq_false_iff_not,
    beq_eq_false_iff_ne]
  omega

end EdgeConsole.Text
