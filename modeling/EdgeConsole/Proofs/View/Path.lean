import EdgeConsole.Proofs.Calendar.Spelled
import EdgeConsole.Proofs.Number.Digits
import EdgeConsole.Proofs.Text.Cut
import EdgeConsole.Proofs.Text.Pieces
import EdgeConsole.View.Path

/-!
# What a path reaches

A path is a way into a value: each part of it leads from an object to a member or from a list to an
item (`Leads`), and the parts lead one after the other (`Reaches`). A cell shows the value that its
path reaches, and a dash if there is none (`cellAt_shows`).

A part says by its spelling which of the two it asks for. A decimal number of 64 bits asks for an
item, so a member whose name is spelled like one is out of reach, whatever it holds
(`cellAt_numeral`).
-/

namespace EdgeConsole.View

open Number (IsNumeral)

/-! ## The value that a path reaches -/

/-- The part is a decimal position of 64 bits. Every item of a list has one, because no list has
more items than a word counts. -/
def IsIndex (part : String) (n : Nat) : Prop := IsNumeral part.toList n ∧ n < UInt64.size

/-- A part of a path leads from a value to another. -/
inductive Leads (part : String) : Json → Json → Prop
  | member {members : List (String × Json)} {v : Json} (hname : ∀ n, ¬ IsIndex part n)
      (hv : (Json.object members).member? part = some v) : Leads part (.object members) v
  | item {items : List Json} {n : Nat} {v : Json} (hindex : IsIndex part n)
      (hv : items[n]? = some v) : Leads part (.list items) v

/-- The parts of a path lead from a value to another. -/
inductive Reaches : List String → Json → Json → Prop
  | here (v : Json) : Reaches [] v v
  | step {part : String} {parts : List String} {v w u : Json} (hstep : Leads part v w)
      (hrest : Reaches parts w u) : Reaches (part :: parts) v u

theorem ofText_of_isIndex {part : String} {n : Nat} (h : IsIndex part n) :
    Step.ofText part = .index n := by
  have hread := (Number.readNatural_eq_ok_iff (by decide)).mpr h
  rw [Step.ofText, hread]

theorem ofText_of_not_isIndex {part : String} (h : ∀ n, ¬ IsIndex part n) :
    Step.ofText part = .member part := by
  rw [Step.ofText]
  split
  · next n hread => exact absurd ((Number.readNatural_eq_ok_iff (by decide)).mp hread) (h n)
  · rfl

/-- A step is followed to where its spelling leads. -/
theorem follow?_ofText_eq_some_iff {part : String} {v w : Json} :
    (Step.ofText part).follow? v = some w ↔ Leads part v w := by
  constructor
  · intro h
    by_cases hindex : ∃ n, IsIndex part n
    · obtain ⟨n, hn⟩ := hindex
      rw [ofText_of_isIndex hn] at h
      cases v with
      | list items => exact .item hn h
      | _ => cases h
    · rw [ofText_of_not_isIndex (not_exists.mp hindex)] at h
      cases v with
      | object members => exact .member (not_exists.mp hindex) h
      | _ => cases h
  · intro h
    cases h with
    | member hname hw => rwa [ofText_of_not_isIndex hname]
    | item hindex hw => rwa [ofText_of_isIndex hindex]

/-- Steps are followed to the value that their spellings reach. -/
theorem follow?_map_ofText_eq_some_iff {parts : List String} {v u : Json} :
    follow? (parts.map .ofText) v = some u ↔ Reaches parts v u := by
  induction parts generalizing v with
  | nil =>
    constructor
    · intro h
      obtain rfl := Option.some.inj h
      exact .here _
    · rintro ⟨⟩
      rfl
  | cons part parts ih =>
    rw [List.map_cons, follow?, Option.bind_eq_some_iff]
    constructor
    · rintro ⟨w, hstep, hrest⟩
      exact .step (follow?_ofText_eq_some_iff.mp hstep) (ih.mp hrest)
    · intro h
      cases h with
      | step hstep hrest => exact ⟨_, follow?_ofText_eq_some_iff.mpr hstep, ih.mpr hrest⟩

/-- The steps of a path are spelled by its parts. -/
theorem steps_eq (path : String) : steps path = (Text.pieces '.' path).map .ofText := by
  rw [steps, Text.splitOn_eq_splitOn, Text.pieces, List.map_map]
  rfl

/-! ## The text of a value -/

/-- What a cell shows for a value. -/
inductive Shows : Json → String → Prop
  | null : Shows .null "-"
  | bool (b : Bool) : Shows (.bool b) (if b then "true" else "false")
  | number (n : Json.Number) : Shows (.number n) (Json.number n).compact
  | empty : Shows (.text "") "-"
  /-- A timestamp is shown by its date. -/
  | timestamp {s : String} {t : Calendar.Instant} (h : Calendar.Timestamp.read s = .ok t) :
      Shows (.text s) (String.ofList (s.toList.take 10))
  | text {s : String} (hne : s ≠ "") (h : ∀ t, Calendar.Timestamp.read s ≠ .ok t) :
      Shows (.text s) s
  | list (items : List Json) : Shows (.list items) ("[" ++ toString items.length ++ " items]")
  | object (members : List (String × Json)) : Shows (.object members) "[object]"

theorem isTimestamp_iff {s : String} :
    isTimestamp s = true ↔ ∃ t, Calendar.Timestamp.read s = .ok t := by
  rw [isTimestamp]
  split
  · next t h => exact iff_of_true rfl ⟨t, h⟩
  · next e h => simp [h]

/-- A text that begins with a date is cut behind it. -/
theorem shortened?_of_date {s : String} {date : Calendar.Date} (hdate : date.HasFourDigits)
    {rest : List Char} (hs : s.toList = Calendar.Timestamp.dateChars date ++ rest) :
    shortened? s = some (String.ofList (Calendar.Timestamp.dateChars date)) := by
  have hsize := Calendar.Timestamp.utf8ByteSize_dateChars hdate
  have hcut := Text.firstBytes?_append (String.ofList (Calendar.Timestamp.dateChars date))
    (String.ofList rest)
  have hwide := String.utf8ByteSize_append (s := String.ofList (Calendar.Timestamp.dateChars date))
    (t := String.ofList rest)
  rw [← Text.eq_append_of_toList_eq hs, hsize] at hcut hwide
  rw [shortened?, if_pos (hwide ▸ Nat.le_add_right _ _)]
  exact hcut

/-- The cut of a timestamp leaves its first ten characters. -/
theorem shortened?_of_read {s : String} {t : Calendar.Instant}
    (h : Calendar.Timestamp.read s = .ok t) :
    shortened? s = some (String.ofList (s.toList.take 10)) := by
  obtain ⟨date, _, _, _, _, hdate, -, hs, -⟩ := Calendar.Timestamp.exists_date_of_read h
  rw [shortened?_of_date hdate hs, hs,
    List.take_left' (Calendar.Timestamp.length_dateChars hdate)]

/-- A value is shown in one way, and that is its cell. -/
theorem shows_iff {v : Json} {s : String} : Shows v s ↔ s = cell v := by
  constructor
  · intro h
    cases h with
    | bool b => cases b <;> rfl
    | timestamp h =>
      next s t =>
      have hne : s ≠ "" := by
        rintro rfl
        cases h
      rw [cell, if_neg hne, if_pos (isTimestamp_iff.mpr ⟨t, h⟩), shortened?_of_read h]
      rfl
    | text hne h =>
      rw [cell, if_neg hne, if_neg fun ht => (isTimestamp_iff.mp ht).elim h]
    | _ => rfl
  · rintro rfl
    cases v with
    | null => exact .null
    | bool b => cases b <;> exact .bool _
    | number n => exact .number n
    | text s =>
      rw [cell]
      split
      · next hempty =>
        rw [hempty]
        exact .empty
      · next hne =>
        split
        · next ht =>
          obtain ⟨t, ht⟩ := isTimestamp_iff.mp ht
          rw [shortened?_of_read ht]
          exact .timestamp ht
        · next ht => exact .text hne fun t h => ht (isTimestamp_iff.mpr ⟨t, h⟩)
    | list items => exact .list items
    | object members => exact .object members

/-! ## Cells -/

theorem cellAt_of_reaches {path : String} {v u : Json}
    (h : Reaches (Text.pieces '.' path) v u) : cellAt path v = cell u := by
  rw [cellAt, steps_eq, follow?_map_ofText_eq_some_iff.mpr h]

theorem cellAt_of_not_reaches {path : String} {v : Json}
    (h : ∀ u, ¬ Reaches (Text.pieces '.' path) v u) : cellAt path v = "-" := by
  rw [cellAt, steps_eq]
  split
  · next u hfollow => exact absurd (follow?_map_ofText_eq_some_iff.mp hfollow) (h u)
  · rfl

/-- Parts with dots between them show the value that they reach, and a dash if they reach none. -/
theorem cellAt_shows {parts : List String} (hne : parts ≠ [])
    (hdots : ∀ part ∈ parts, '.' ∉ part.toList) (v : Json) :
    (∀ u, Reaches parts v u → Shows u (cellAt (".".intercalate parts) v)) ∧
      ((∀ u, ¬ Reaches parts v u) → cellAt (".".intercalate parts) v = "-") := by
  have hparts : Text.pieces '.' (".".intercalate parts) = parts :=
    Text.pieces_intercalate_of_not_mem hne hdots
  constructor
  · intro u hu
    exact shows_iff.mpr (cellAt_of_reaches (by rwa [hparts]))
  · intro hnone
    exact cellAt_of_not_reaches (by rwa [hparts])

/-- The case of a time in an item of a list. -/
theorem cellAt_shows_nested :
    let v := Json.object [("log", .list [.null, .object [("at", .text "2016-05-16T22:39:06Z")]])]
    Reaches ["log", "1", "at"] v (.text "2016-05-16T22:39:06Z") ∧
      Shows (.text "2016-05-16T22:39:06Z") (cellAt "log.1.at" v) ∧
      (∀ u, ¬ Reaches ["log", "2", "at"] v u) ∧ cellAt "log.2.at" v = "-" := by
  intro v
  have hreaches : Reaches ["log", "1", "at"] v (.text "2016-05-16T22:39:06Z") :=
    follow?_map_ofText_eq_some_iff.mp rfl
  have hnone : ∀ u, ¬ Reaches ["log", "2", "at"] v u := by
    intro u hu
    cases follow?_map_ofText_eq_some_iff.mpr hu
  exact ⟨hreaches, (cellAt_shows (by decide) (by decide) v).1 _ hreaches, hnone,
    (cellAt_shows (show ["log", "2", "at"] ≠ [] by decide) (by decide) v).2 hnone⟩

/-- The member under a name that is spelled like a number is there, but no path reaches it. -/
theorem cellAt_numeral :
    (Json.object [("0", .text "x")]).member? "0" = some (.text "x") ∧ '.' ∉ "0".toList ∧
      Shows (.text "x") "x" ∧ cellAt "0" (.object [("0", .text "x")]) = "-" :=
  ⟨rfl, by decide, shows_iff.mpr rfl, rfl⟩

end EdgeConsole.View
