import EdgeConsole.Api.Service

/-!
# Items in order of a key

Items are put in ascending order of a key, and those that the key does not tell apart stay in their
order. Versions are listed in order of their numbers: the first item of a sort in such a list is the
least of its sort and the last item of all is the greatest, which is also the one that `lastMax?`
finds in any order.
-/

namespace EdgeConsole.Api

variable {α : Type}

section Linear

variable {β : Type} [LE β] [DecidableLE β] [Std.IsLinearOrder β] (key : α → β) (items : List α)

theorem decide_le_trans (a b c : α) (hab : decide (key a ≤ key b) = true)
    (hbc : decide (key b ≤ key c) = true) : decide (key a ≤ key c) = true := by
  rw [decide_eq_true_eq] at *
  exact Std.le_trans hab hbc

theorem decide_le_total (a b : α) : (decide (key a ≤ key b) || decide (key b ≤ key a)) = true := by
  rw [Bool.or_eq_true, decide_eq_true_eq, decide_eq_true_eq]
  exact Std.le_total

theorem sortedOn_pairwise : (sortedOn key items).Pairwise fun a b => key a ≤ key b := by
  have hsorted := List.pairwise_mergeSort (decide_le_trans key) (decide_le_total key) items
  exact hsorted.imp fun h => by simpa using h

end Linear

variable {key : α → UInt32}

theorem mem_sortedOn {items : List α} {a : α} : a ∈ sortedOn key items ↔ a ∈ items :=
  (sortedOn_perm key items).mem_iff

theorem sortedOn_ne_nil (key : α → UInt32) {items : List α} (h : items ≠ []) :
    sortedOn key items ≠ [] := by
  intro hnil
  have hperm := sortedOn_perm key items
  rw [hnil] at hperm
  exact h hperm.nil_eq.symm

/-- The first item of its sort in ascending order is the least of its sort. -/
theorem le_of_find? {items : List α} (h : items.Pairwise fun a b => key a ≤ key b)
    {p : α → Bool} {a : α} (ha : items.find? p = some a) :
    ∀ b ∈ items, p b = true → key a ≤ key b := by
  obtain ⟨hp, before, after, rfl, hbefore⟩ := List.find?_eq_some_iff_append.mp ha
  intro b hb hpb
  rcases List.mem_append.mp hb with hb | hb
  · have hnot := hbefore b hb
    rw [hpb] at hnot
    exact absurd hnot (by decide)
  · rcases List.mem_cons.mp hb with rfl | hb
    · exact UInt32.le_refl _
    · exact (List.pairwise_cons.mp (List.pairwise_append.mp h).2.1).1 b hb

/-- The last item in ascending order is the greatest. -/
theorem le_of_getLast? {items : List α} (h : items.Pairwise fun a b => key a ≤ key b) {a : α}
    (ha : items.getLast? = some a) : ∀ b ∈ items, key b ≤ key a := by
  obtain ⟨before, rfl⟩ := List.getLast?_eq_some_iff.mp ha
  intro b hb
  rcases List.mem_append.mp hb with hb | hb
  · exact (List.pairwise_append.mp h).2.2 b hb a (List.mem_singleton.mpr rfl)
  · obtain rfl := List.mem_singleton.mp hb
    exact UInt32.le_refl _

/-- A list with items has a last one with the greatest key. -/
theorem exists_lastMax? (key : α → UInt32) {items : List α} (h : items ≠ []) :
    ∃ a, lastMax? key items = some a ∧ a ∈ items ∧ ∀ b ∈ items, key b ≤ key a := by
  induction items with
  | nil => exact absurd rfl h
  | cons first rest ih =>
    by_cases hrest : rest = []
    · subst hrest
      exact ⟨first, rfl, List.mem_singleton.mpr rfl, by simp⟩
    · obtain ⟨a, ha, hmem, hmax⟩ := ih hrest
      rw [lastMax?, ha]
      dsimp only
      by_cases hlt : key a < key first
      · rw [if_pos hlt]
        refine ⟨first, rfl, List.mem_cons_self .., ?_⟩
        intro b hb
        rcases List.mem_cons.mp hb with rfl | hb
        · exact UInt32.le_refl _
        · exact UInt32.le_trans (hmax b hb) (UInt32.le_of_lt hlt)
      · rw [if_neg hlt]
        refine ⟨a, rfl, List.mem_cons_of_mem _ hmem, ?_⟩
        intro b hb
        rcases List.mem_cons.mp hb with rfl | hb
        · exact UInt32.not_lt.mp hlt
        · exact hmax b hb

end EdgeConsole.Api
