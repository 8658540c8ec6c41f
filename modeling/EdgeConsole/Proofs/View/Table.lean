import EdgeConsole.Proofs.Text.Lowercase
import EdgeConsole.Proofs.Text.Pieces
import EdgeConsole.Proofs.View.Row
import EdgeConsole.Catalog.Builtin
import EdgeConsole.View.Render

/-!
# Lines of a table

A table is cut at its line feeds into the line of the headers and, for each item in turn, the lines
that its row makes (`lines_definitionTable`). That is one line for an item unless the item breaks
it: a line feed of a cell comes into the row as it is, and it stays there if anything but blanks
follows (`Breaks`). What follows is then at the start of a line like the row of an item
(`lines_broken`).
-/

namespace EdgeConsole.View

open Catalog (Definition)
open Text (isBlank dropTail pieces)

/-! ## Blanks at the end -/

/-- A blank stays in a line just when something behind it is not blank. -/
theorem mem_dropTail_iff {cs : List Char} {blank : Char} (h : isBlank blank = true) :
    blank ∈ dropTail isBlank cs ↔ ∃ c, isBlank c = false ∧ [blank, c].Sublist cs := by
  constructor
  · intro hmem
    obtain ⟨⟨blanks, hcs, -⟩, hlast⟩ := isTrimmed_dropTail cs
    have hne : dropTail isBlank cs ≠ [] := List.ne_nil_of_mem hmem
    let c := (dropTail isBlank cs).getLast hne
    have hc : isBlank c = false := hlast c (List.getLast?_eq_some_getLast hne)
    have hfront : blank ∈ (dropTail isBlank cs).dropLast := by
      rcases List.mem_append.mp (List.dropLast_append_getLast hne ▸ hmem) with hfront | hend
      · exact hfront
      · rw [List.mem_singleton.mp hend] at h
        exact absurd h (Bool.eq_false_iff.mp hc)
    refine ⟨c, hc, ?_⟩
    rw [hcs, ← List.dropLast_append_getLast hne]
    exact ((List.singleton_sublist.mpr hfront).append (List.Sublist.refl [c])).trans
      (List.sublist_append_left _ _)
  · rintro ⟨c, hc, hsub⟩
    obtain ⟨front, rest, rfl, hfront, hrest⟩ := List.cons_sublist_iff.mp hsub
    obtain ⟨before, after, rfl⟩ := List.append_of_mem (List.singleton_sublist.mp hrest)
    rw [← List.append_assoc, Text.dropTail_append_of_not hc]
    exact List.mem_append_left _ (List.mem_append_left _ hfront)

/-! ## What stands in a row -/

theorem mem_fit {width : Nat} {cell : List Char} {c : Char} (h : c ∈ fit width cell) :
    c ∈ cell.take width ∨ c = ' ' ∨ c = '…' := by
  have hfills := fills_fit width cell
  generalize fit width cell = shown at h hfills
  cases hfills with
  | padded hcell =>
    rcases List.mem_append.mp h with h | h
    · exact .inl (by rwa [List.take_of_length_le hcell])
    · exact .inr (.inl (List.eq_of_mem_replicate h))
  | cut hcell hwidth =>
    rcases List.mem_append.mp h with h | h
    · exact .inl ((List.take_sublist_take_left (Nat.sub_le width 1)).mem h)
    · exact .inr (.inr (List.mem_singleton.mp h))
  | first hcell hwidth => exact .inl (by rwa [hwidth])
  | none hcell hwidth => cases h

theorem mem_intercalate {sep : List Char} {texts : List (List Char)} {c : Char}
    (h : c ∈ sep.intercalate texts) : c ∈ sep ∨ ∃ text ∈ texts, c ∈ text := by
  induction texts with
  | nil => cases h
  | cons text rest ih =>
    cases rest with
    | nil =>
      rw [List.intercalate_singleton] at h
      exact .inr ⟨text, List.mem_singleton_self text, h⟩
    | cons next rest =>
      rw [List.intercalate_cons_cons, List.append_assoc, List.mem_append, List.mem_append] at h
      rcases h with h | h | h
      · exact .inr ⟨text, List.mem_cons_self, h⟩
      · exact .inl h
      · obtain hsep | ⟨found, hfound, hc⟩ := ih h
        · exact .inl hsep
        · exact .inr ⟨found, List.mem_cons_of_mem _ hfound, hc⟩

/-- A character of a row is in the shown part of a cell, or it pads or closes one. -/
theorem mem_rowChars {widths : List Nat} {cells : List (List Char)} {c : Char}
    (h : c ∈ rowChars widths cells) :
    (∃ p ∈ widths.zip cells, c ∈ p.2.take p.1) ∨ c = ' ' ∨ c = '…' := by
  obtain hgap | ⟨shown, hshown, hc⟩ := mem_intercalate h
  · refine .inr (.inl ?_)
    simpa [gap] using hgap
  · rw [← List.map_uncurry_zip_eq_zipWith] at hshown
    obtain ⟨p, hp, rfl⟩ := List.mem_map.mp hshown
    exact (mem_fit hc).imp_left fun hc => ⟨p, hp, hc⟩

/-! ## Lines of an item -/

/-- What an item shows in its columns. -/
def itemChars (columns : List Column) (item : Json) : List Char :=
  rowChars (columns.map (·.width)) ((itemCells columns item).map String.toList)

/-- The row of an item as a line. -/
def itemLine (columns : List Column) (item : Json) : String :=
  row (columns.map (·.width)) (itemCells columns item)

/-- An item shows a line feed, and behind it something that is not blank. -/
def Breaks (columns : List Column) (item : Json) : Prop :=
  ∃ c, isBlank c = false ∧ ['\n', c].Sublist (itemChars columns item)

theorem lineFeed_mem_itemLine_iff {columns : List Column} {item : Json} :
    '\n' ∈ (itemLine columns item).toList ↔ Breaks columns item := by
  rw [itemLine, toList_row]
  exact mem_dropTail_iff rfl

/-- What comes behind the end of a column breaks nothing. -/
theorem not_breaks_of_shown {columns : List Column} {item : Json}
    (h : ∀ c ∈ columns, '\n' ∉ (cellAt c.path item).toList.take c.width) :
    ¬ Breaks columns item := by
  rintro ⟨c, -, hsub⟩
  have hmem : '\n' ∈ itemChars columns item := hsub.mem List.mem_cons_self
  rw [itemChars, itemCells, List.map_map] at hmem
  obtain ⟨p, hp, hshown⟩ | hblank | hclose := mem_rowChars hmem
  · rw [List.zip_map'] at hp
    obtain ⟨column, hcolumn, rfl⟩ := List.mem_map.mp hp
    exact h column hcolumn hshown
  · exact absurd hblank (by decide)
  · exact absurd hclose (by decide)

/-! ## Lines of a table -/

theorem lineFeed_not_mem_row {widths : List Nat} {cells : List String}
    (h : ∀ cell ∈ cells, '\n' ∉ cell.toList) : '\n' ∉ (row widths cells).toList := by
  intro hmem
  rw [toList_row] at hmem
  obtain ⟨⟨width, chars⟩, hp, hshown⟩ | hblank | hclose :=
    mem_rowChars (Text.mem_of_mem_dropTail hmem)
  · obtain ⟨cell, hcell, rfl⟩ := List.mem_map.mp (List.of_mem_zip hp).2
    exact h cell hcell (List.mem_of_mem_take hshown)
  · exact absurd hblank (by decide)
  · exact absurd hclose (by decide)

theorem lineFeed_not_mem_emptyNotice {displayName : String} (h : '\n' ∉ displayName.toList) :
    '\n' ∉ (emptyNotice displayName).toList := by
  rw [emptyNotice, String.toList_append, String.toList_append, List.mem_append, List.mem_append]
  rintro ((hmem | hmem) | hmem)
  · exact absurd hmem (by decide)
  · exact h (Text.mem_of_mem_lowercase (by decide) hmem)
  · exact absurd hmem (by decide)

/-- The line of the headers. -/
def headerLine (columns : List Column) : String :=
  row (columns.map (·.width)) (columns.map (·.header))

theorem lineFeed_not_mem_headerLine {columns : List Column}
    (h : ∀ c ∈ columns, '\n' ∉ c.header.toList) : '\n' ∉ (headerLine columns).toList :=
  lineFeed_not_mem_row fun cell hcell => by
    obtain ⟨c, hc, rfl⟩ := List.mem_map.mp hcell
    exact h c hc

theorem pieces_definitionTable_nil {d : Definition} (hname : '\n' ∉ d.displayName.toList)
    (hheaders : ∀ c ∈ d.columns, '\n' ∉ c.header.toList) :
    pieces '\n' (definitionTable d []) = [headerLine d.columns, emptyNotice d.displayName] := by
  have hlines : tableLines d.displayName d.columns [] =
      [headerLine d.columns, emptyNotice d.displayName] := rfl
  have hfree : ∀ line ∈ [headerLine d.columns, emptyNotice d.displayName],
      '\n' ∉ line.toList := by
    rw [List.forall_mem_cons, List.forall_mem_singleton]
    exact ⟨lineFeed_not_mem_headerLine hheaders, lineFeed_not_mem_emptyNotice hname⟩
  have hcut := Text.pieces_intercalate_of_not_mem (List.cons_ne_nil _ _) hfree
  rw [definitionTable, table, hlines]
  exact hcut

theorem pieces_definitionTable {d : Definition} {items : List Json}
    (hheaders : ∀ c ∈ d.columns, '\n' ∉ c.header.toList) (hitems : items ≠ []) :
    pieces '\n' (definitionTable d items) =
      headerLine d.columns :: (items.map (itemLine d.columns)).flatMap (pieces '\n') := by
  have hlines : tableLines d.displayName d.columns items =
      headerLine d.columns :: items.map (itemLine d.columns) := by
    rw [tableLines, if_neg (by rwa [List.isEmpty_iff])]
    rfl
  have hcut := @Text.pieces_intercalate '\n' _ (List.cons_ne_nil (headerLine d.columns)
    (items.map (itemLine d.columns)))
  rw [List.flatMap_cons, Text.pieces_of_not_mem (lineFeed_not_mem_headerLine hheaders)] at hcut
  rw [definitionTable, table, hlines]
  exact hcut

/-- Rows are a line each just when no item breaks its line. -/
theorem length_itemLines_eq_iff {columns : List Column} {items : List Json} :
    ((items.map (itemLine columns)).flatMap (pieces '\n')).length = items.length ↔
      ∀ item ∈ items, ¬ Breaks columns item := by
  have hlengths := @Text.length_flatMap_pieces_eq_iff '\n' (items.map (itemLine columns))
  rw [List.length_map, List.forall_mem_map] at hlengths
  rw [hlengths]
  exact forall₂_congr fun item _ => not_congr lineFeed_mem_itemLine_iff

theorem itemLines_eq_iff {columns : List Column} {items : List Json} :
    (items.map (itemLine columns)).flatMap (pieces '\n') = items.map (itemLine columns) ↔
      ∀ item ∈ items, ¬ Breaks columns item := by
  rw [← length_itemLines_eq_iff]
  constructor
  · intro h
    rw [h, List.length_map]
  · intro h
    have hfree := Text.length_flatMap_pieces_eq_iff.mp (h.trans (List.length_map _).symm)
    exact Text.flatMap_pieces_of_not_mem hfree

/-- A table without items is the headers and a notice. One with items is the headers and then what
their rows are cut into; that is one line for each of them, its row, just when no item breaks its
line, and an item does not if its columns show no line feed. -/
theorem lines_definitionTable {d : Definition} (hname : '\n' ∉ d.displayName.toList)
    (hheaders : ∀ c ∈ d.columns, '\n' ∉ c.header.toList) :
    pieces '\n' (definitionTable d []) = [headerLine d.columns, emptyNotice d.displayName] ∧
      (∀ items : List Json, items ≠ [] →
        pieces '\n' (definitionTable d items) =
            headerLine d.columns :: (items.map (itemLine d.columns)).flatMap (pieces '\n') ∧
          (pieces '\n' (definitionTable d items) =
              headerLine d.columns :: items.map (itemLine d.columns) ↔
            ∀ item ∈ items, ¬ Breaks d.columns item) ∧
          ((pieces '\n' (definitionTable d items)).length = 1 + items.length ↔
            ∀ item ∈ items, ¬ Breaks d.columns item)) ∧
      ∀ item, (∀ c ∈ d.columns, '\n' ∉ (cellAt c.path item).toList.take c.width) →
        ¬ Breaks d.columns item := by
  refine ⟨?_, ?_, fun item => not_breaks_of_shown⟩
  · exact pieces_definitionTable_nil hname hheaders
  · intro items hitems
    have hcut := pieces_definitionTable hheaders hitems
    refine ⟨hcut, ?_, ?_⟩
    · rw [hcut, List.cons_inj_right, itemLines_eq_iff]
    · rw [hcut, List.length_cons, ← length_itemLines_eq_iff, Nat.add_comm, Nat.add_right_inj]

/-- The case of two domains of a service. -/
theorem lines_definitionTable_domains :
    let d := (Catalog.Kind.versioned .domain).definition
    let item := Json.object [("name", .text "www.example.com"), ("comment", .text "main")]
    '\n' ∉ d.displayName.toList ∧ (∀ c ∈ d.columns, '\n' ∉ c.header.toList) ∧
      ¬ Breaks d.columns item ∧
      pieces '\n' (definitionTable d [item, item]) =
        [headerLine d.columns, itemLine d.columns item, itemLine d.columns item] := by
  intro d item
  have hname : '\n' ∉ d.displayName.toList := by decide
  have hheaders : ∀ c ∈ d.columns, '\n' ∉ c.header.toList := by decide
  obtain ⟨-, hlines, hshown⟩ := lines_definitionTable hname hheaders
  have hwhole : ¬ Breaks d.columns item := hshown item (by decide)
  refine ⟨hname, hheaders, hwhole, ?_⟩
  exact (hlines [item, item] (by simp)).2.1.mpr (by simpa using hwhole)

/-- The comment of a domain adds a line that reads like the row of another domain. -/
theorem lines_broken :
    let d := (Catalog.Kind.versioned .domain).definition
    let item := Json.object
      [("name", .text "www.example.com"), ("comment", .text "main\nwww.forged.com")]
    '\n' ∉ d.displayName.toList ∧ (∀ c ∈ d.columns, '\n' ∉ c.header.toList) ∧
      pieces '\n' (definitionTable d [item]) =
        ["NAME                                      COMMENT",
         "www.example.com                           main", "www.forged.com"] := by
  intro d item
  exact ⟨by decide, by decide, by decide +kernel⟩

end EdgeConsole.View
