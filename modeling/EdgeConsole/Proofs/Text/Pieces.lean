/-!
# Pieces of a text

A text is cut at every occurrence of a character. What was joined with that character between the
parts is cut into the pieces of the parts (`pieces_intercalate`): each part stands alone if it is
free of the separator, and adds one piece more for every separator in it.
-/

namespace EdgeConsole.Text

/-- What stands between the occurrences of a character in a text. -/
def pieces (sep : Char) (s : String) : List String :=
  (s.toList.splitOn sep).map String.ofList

variable {sep : Char}

/-- A text without the separator is its only piece. -/
theorem pieces_of_not_mem {s : String} (h : sep ∉ s.toList) : pieces sep s = [s] := by
  rw [pieces, List.splitOn_eq_singleton h, List.map_singleton, String.ofList_toList]

/-- A separator parts what stands on its two sides, whatever that is. -/
theorem pieces_append (s t : String) :
    pieces sep (s ++ String.singleton sep ++ t) = pieces sep s ++ pieces sep t := by
  have hchars : (s ++ String.singleton sep ++ t).toList = s.toList ++ sep :: t.toList := by
    rw [String.toList_append, String.toList_append, String.toList_singleton, List.append_assoc]
    rfl
  rw [pieces, hchars, List.splitOn_append_cons_self, List.map_append]
  rfl

/-- Texts that were joined are cut one after the other. -/
theorem pieces_intercalate {texts : List String} (h : texts ≠ []) :
    pieces sep ((String.singleton sep).intercalate texts) = texts.flatMap (pieces sep) := by
  induction texts with
  | nil => exact absurd rfl h
  | cons s rest ih =>
    cases rest with
    | nil => rw [String.intercalate_singleton, List.flatMap_singleton]
    | cons t rest =>
      have hrest := ih (List.cons_ne_nil t rest)
      rw [String.intercalate_cons_cons, pieces_append, hrest]
      rfl

theorem flatMap_pieces_of_not_mem {texts : List String} (h : ∀ t ∈ texts, sep ∉ t.toList) :
    texts.flatMap (pieces sep) = texts := by
  have halone : texts.map (pieces sep) = texts.map ([·]) :=
    List.map_congr_left fun t ht => pieces_of_not_mem (h t ht)
  rw [List.flatMap_def, halone, ← List.flatMap_def, List.flatMap_singleton']

/-- Texts that are free of the separator are read back from what they were joined to. -/
theorem pieces_intercalate_of_not_mem {texts : List String} (h : texts ≠ [])
    (hfree : ∀ t ∈ texts, sep ∉ t.toList) :
    pieces sep ((String.singleton sep).intercalate texts) = texts :=
  (pieces_intercalate h).trans (flatMap_pieces_of_not_mem hfree)

/-- There is one piece more than there are separators. -/
theorem length_pieces (sep : Char) (s : String) :
    (pieces sep s).length = s.toList.count sep + 1 := by
  rw [pieces, List.length_map]
  generalize s.toList = cs
  induction cs with
  | nil => rfl
  | cons c cs ih =>
    rw [List.splitOn_cons_eq_if_modifyHead, List.count_cons]
    split <;> simp [ih]

/-- Every text gives a piece at least. -/
theorem length_le_length_flatMap_pieces (sep : Char) (texts : List String) :
    texts.length ≤ (texts.flatMap (pieces sep)).length := by
  induction texts with
  | nil => exact Nat.le_refl 0
  | cons s rest ih =>
    rw [List.flatMap_cons, List.length_append, length_pieces, List.length_cons]
    omega

/-- Texts give a piece each just when none of them has the separator. -/
theorem length_flatMap_pieces_eq_iff {texts : List String} :
    (texts.flatMap (pieces sep)).length = texts.length ↔ ∀ t ∈ texts, sep ∉ t.toList := by
  induction texts with
  | nil => exact iff_of_true rfl nofun
  | cons s rest ih =>
    have hle := length_le_length_flatMap_pieces sep rest
    rw [List.forall_mem_cons, ← ih, ← List.count_eq_zero, List.flatMap_cons, List.length_append,
      length_pieces, List.length_cons]
    omega

end EdgeConsole.Text
