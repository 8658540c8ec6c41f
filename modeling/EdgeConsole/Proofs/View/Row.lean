import EdgeConsole.Proofs.Text.Blank
import EdgeConsole.View.Table
import Mathlib.Algebra.GroupWithZero.Nat
import Mathlib.Data.List.Forall2

/-!
# Columns of a row

Every column of a row begins where the widths in front of it and the gaps between them end
(`offset`), whatever stands in the cells, and shows its cell there in exactly its width: padded with
blanks, or cut and closed by an ellipsis (`Fills`). A row as a line is that text without the blanks
at its end, so the headers and all rows of a table have their columns at the same places
(`row_isLaidOut`).

The lemma that carries it is `exists_rowChars_eq`: what stands in front of a column is as long as
its offset says.
-/

namespace EdgeConsole.View

open Text (isBlank dropTail)

/-! ## Layout -/

/-- Where a column begins. -/
def offset (widths : List Nat) (i : Nat) : Nat := ((widths.take i).map (· + 2)).sum

/-- What a column of a width shows for a cell. -/
inductive Fills (width : Nat) (cell : List Char) : List Char → Prop
  | padded (hcell : cell.length ≤ width) :
      Fills width cell (cell ++ List.replicate (width - cell.length) ' ')
  | cut (hcell : width < cell.length) (hwidth : 2 ≤ width) :
      Fills width cell (cell.take (width - 1) ++ ['…'])
  | first (hcell : width < cell.length) (hwidth : width = 1) : Fills width cell (cell.take 1)
  | none (hcell : width < cell.length) (hwidth : width = 0) : Fills width cell []

/-- The text holds the cells in their columns, with two blanks between one column and the next. -/
structure IsLaidOut (columns : List Column) (cells : List String) (line : List Char) : Prop where
  length : line.length = (columns.map (·.width)).sum + 2 * (columns.length - 1)
  column : ∀ i (hi : i < columns.length) (hcell : i < cells.length),
    Fills columns[i].width cells[i].toList
      ((line.drop (offset (columns.map (·.width)) i)).take columns[i].width)
  gap : ∀ i (hi : i < columns.length), i + 1 < columns.length →
    (line.drop (offset (columns.map (·.width)) i + columns[i].width)).take 2 = [' ', ' ']

/-- The line is the text without the blanks at its end. -/
structure IsTrimmed (text line : List Char) : Prop where
  blanks : ∃ blanks, text = line ++ blanks ∧ ∀ c ∈ blanks, isBlank c = true
  last : ∀ c ∈ line.getLast?, isBlank c = false

/-! ## Cells -/

theorem fills_fit (width : Nat) (cell : List Char) : Fills width cell (fit width cell) := by
  rw [fit]
  split
  · next hcell => exact .padded hcell
  · next hcell =>
    have hlonger : width < cell.length := Nat.lt_of_not_le hcell
    match width, hlonger with
    | 0, hlonger => exact .none hlonger rfl
    | 1, hlonger => exact .first hlonger rfl
    | width + 2, hlonger =>
      rw [if_neg (by omega)]
      exact .cut hlonger (by omega)

/-! ## Rows -/

theorem rowChars_cons_cons (w w' : Nat) (widths : List Nat) (cell cell' : List Char)
    (cells : List (List Char)) :
    rowChars (w :: w' :: widths) (cell :: cell' :: cells) =
      fit w cell ++ (gap ++ rowChars (w' :: widths) (cell' :: cells)) :=
  List.intercalate_cons_cons.trans (List.append_assoc ..)

theorem length_rowChars {widths : List Nat} {cells : List (List Char)}
    (h : widths.length = cells.length) :
    (rowChars widths cells).length = widths.sum + 2 * (widths.length - 1) := by
  induction widths generalizing cells with
  | nil => rfl
  | cons w widths ih =>
    match widths, cells, h with
    | [], [cell], _ =>
      show (rowChars [w] [cell]).length = _
      simp [rowChars, length_fit]
    | w' :: widths, cell :: cell' :: cells, h =>
      have hrest := ih (Nat.succ.inj h)
      rw [rowChars_cons_cons, List.length_append, List.length_append, length_fit, hrest]
      simp only [gap, List.length_cons, List.length_nil, List.sum_cons]
      omega

theorem offset_cons_succ (w : Nat) (widths : List Nat) (i : Nat) :
    offset (w :: widths) (i + 1) = w + 2 + offset widths i := by
  simp [offset]

/-- In front of a column stand the columns before it and the gaps behind these, and behind it stands
a gap unless it is the last. -/
theorem exists_rowChars_eq {widths : List Nat} {cells : List (List Char)} {i : Nat}
    (hi : i < widths.length) (hcell : i < cells.length) (hcells : widths.length = cells.length) :
    ∃ front back, rowChars widths cells = front ++ (fit widths[i] cells[i] ++ back) ∧
      front.length = offset widths i ∧ (i + 1 < widths.length → gap <+: back) := by
  induction widths generalizing cells i with
  | nil => cases hi
  | cons w widths ih =>
    match widths, cells, hcells with
    | [], [cell], _ =>
      obtain rfl : i = 0 := Nat.lt_one_iff.mp hi
      refine ⟨[], [], ?_, rfl, fun h => absurd h (Nat.lt_irrefl 1)⟩
      rw [List.append_nil]
      exact List.intercalate_singleton
    | w' :: widths, cell :: cell' :: cells, hcells =>
      rw [rowChars_cons_cons]
      cases i with
      | zero => exact ⟨[], _, rfl, rfl, fun _ => List.prefix_append _ _⟩
      | succ i =>
        obtain ⟨front, back, hrow, hfront, hgap⟩ :=
          ih (Nat.succ_lt_succ_iff.mp hi) (Nat.succ_lt_succ_iff.mp hcell) (Nat.succ.inj hcells)
        refine ⟨fit w cell ++ (gap ++ front), back, ?_, ?_,
          fun h => hgap (Nat.succ_lt_succ_iff.mp h)⟩
        · rw [hrow]
          simp only [List.append_assoc, List.getElem_cons_succ]
        · rw [List.length_append, List.length_append, length_fit, hfront, offset_cons_succ]
          simp only [gap, List.length_cons, List.length_nil]
          omega

theorem rowChars_isLaidOut {columns : List Column} {cells : List String}
    (h : cells.length = columns.length) :
    IsLaidOut columns cells (rowChars (columns.map (·.width)) (cells.map String.toList)) := by
  have hcells : (columns.map (·.width)).length = (cells.map String.toList).length := by
    rw [List.length_map, List.length_map, h]
  refine ⟨?_, ?_, ?_⟩
  · rw [length_rowChars hcells, List.length_map]
  · intro i hi hcell
    obtain ⟨front, back, hrow, hfront, -⟩ :=
      exists_rowChars_eq (i := i) (by rwa [List.length_map])
        (by rw [List.length_map]; omega) hcells
    simp only [List.getElem_map] at hrow
    rw [hrow, List.drop_left' hfront, List.take_left' (length_fit _ _)]
    exact fills_fit _ _
  · intro i hi hnext
    obtain ⟨front, back, hrow, hfront, hgap⟩ :=
      exists_rowChars_eq (i := i) (by rwa [List.length_map])
        (by rw [List.length_map]; omega) hcells
    obtain ⟨rest, rfl⟩ := hgap (by rwa [List.length_map])
    simp only [List.getElem_map] at hrow
    rw [hrow, ← List.drop_drop, List.drop_left' hfront, List.drop_left' (length_fit _ _)]
    rfl

/-! ## Lines -/

theorem isTrimmed_dropTail (cs : List Char) : IsTrimmed cs (dropTail isBlank cs) := by
  refine ⟨Text.exists_dropTail_append isBlank cs, fun c hc => ?_⟩
  rw [dropTail, List.getLast?_reverse, Option.mem_def] at hc
  have hstop := List.head?_dropWhile_not isBlank cs.reverse
  rw [hc] at hstop
  exact hstop

theorem toList_row (widths : List Nat) (cells : List String) :
    (row widths cells).toList = dropTail isBlank (rowChars widths (cells.map String.toList)) := by
  rw [row, Text.trimEnd, String.toList_ofList, String.toList_ofList]

/-- The line of a row is its text without the blanks at the end of it. -/
theorem row_isTrimmed (widths : List Nat) (cells : List String) :
    IsTrimmed (rowChars widths (cells.map String.toList)) (row widths cells).toList := by
  rw [toList_row]
  exact isTrimmed_dropTail _

/-- The cells of an item. -/
def itemCells (columns : List Column) (item : Json) : List String :=
  columns.map fun c => cellAt c.path item

/-- Lines show lists of cells if they are the lines of these cells in order. -/
theorem forall₂_rows {columns : List Column} {cellss : List (List String)}
    (h : ∀ cells ∈ cellss, cells.length = columns.length) :
    List.Forall₂
      (fun cells line => ∃ text, IsLaidOut columns cells text ∧ IsTrimmed text line.toList)
      cellss (cellss.map (row (columns.map (·.width)))) := by
  rw [List.forall₂_map_right_iff, List.forall₂_same]
  intro cells hcells
  exact ⟨_, rowChars_isLaidOut (h cells hcells), row_isTrimmed _ cells⟩

/-- Whatever the widths are and whatever stands in the cells, a row has its cells in their columns,
and its line is without the blanks at the end. So do the headers and all the items of a table. -/
theorem row_isLaidOut (columns : List Column) :
    (∀ cells : List String, cells.length = columns.length →
      IsLaidOut columns cells (rowChars (columns.map (·.width)) (cells.map String.toList)) ∧
        IsTrimmed (rowChars (columns.map (·.width)) (cells.map String.toList))
          (row (columns.map (·.width)) cells).toList) ∧
      ∀ (displayName : String) (items : List Json), items ≠ [] →
        List.Forall₂
          (fun cells line => ∃ text, IsLaidOut columns cells text ∧ IsTrimmed text line.toList)
          (columns.map (·.header) :: items.map (itemCells columns))
          (tableLines displayName columns items) := by
  constructor
  · intro cells h
    exact ⟨rowChars_isLaidOut h, row_isTrimmed _ cells⟩
  · intro displayName items hitems
    have hlines : tableLines displayName columns items =
        (columns.map (·.header) :: items.map (itemCells columns)).map
          (row (columns.map (·.width))) := by
      rw [tableLines, if_neg (by rwa [List.isEmpty_iff]), List.map_cons, List.map_map]
      rfl
    rw [hlines]
    apply forall₂_rows
    intro cells hcells
    rcases List.mem_cons.mp hcells with rfl | hcells
    · exact List.length_map _
    · obtain ⟨item, -, rfl⟩ := List.mem_map.mp hcells
      exact List.length_map _

/-- The case of a name that is cut and a number that is padded. -/
theorem row_isLaidOut_cut :
    let columns : List Column := [⟨"NAME", "name", 5⟩, ⟨"PORT", "port", 4⟩]
    IsLaidOut columns ["größer", "443"] "größ…  443 ".toList ∧
      IsTrimmed "größ…  443 ".toList (row [5, 4] ["größer", "443"]).toList := by
  intro columns
  exact (row_isLaidOut columns).1 ["größer", "443"] rfl

end EdgeConsole.View
