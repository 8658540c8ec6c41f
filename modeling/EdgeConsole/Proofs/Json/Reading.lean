import Mathlib.Data.List.Forall2
import EdgeConsole.Proofs.Json.Printed
import EdgeConsole.Proofs.Outcome

/-!
# Readers on well-formed values

What the readers do with the outline of a value: it can always be skipped, a value without parts is
read as itself at any depth, and a list is read item by item.
-/

namespace EdgeConsole.Json

open Outcome (bind_eq_ok_iff map_eq_ok_iff)

/-! ## Skipping -/

mutual

/-- A value that is well formed can be skipped. -/
theorem skip_ofJson : (v : Json) → (Outline.ofJson v).skip = .ok ()
  | .null | .bool _ | .number _ | .text _ => by rw [Outline.ofJson, Outline.skip]
  | .list items => by
    rw [Outline.ofJson, Outline.skip, skipItems_ofItems items]
    rfl
  | .object members => by
    rw [Outline.ofJson, Outline.skip, skipMembers_ofMembers members]
    rfl

theorem skipItems_ofItems : (items : List Json) → skipItems (Outline.ofItems items) = .ok ()
  | [] => rfl
  | v :: rest => by
    rw [Outline.ofItems, skipItems, skip_ofJson v]
    exact skipItems_ofItems rest

theorem skipMembers_ofMembers :
    (members : List (String × Json)) → skipMembers (Outline.ofMembers members) = .ok ()
  | [] => rfl
  | (_, v) :: rest => by
    rw [Outline.ofMembers, skipMembers, skip_ofJson v]
    · exact skipMembers_ofMembers rest
    · exact nofun

end

/-! ## Values without parts -/

@[simp] theorem readValue_null (depth : Nat) :
    (Outline.atom .null).readValue depth = .ok .null := by
  rw [Outline.readValue]

@[simp] theorem readValue_bool (depth : Nat) (b : Bool) :
    (Outline.atom (.bool b)).readValue depth = .ok (.bool b) := by
  rw [Outline.readValue]

@[simp] theorem readValue_number (depth : Nat) (n : Number) :
    (Outline.atom (.number n)).readValue depth = .ok (.number n) := by
  rw [Outline.readValue]

@[simp] theorem readValue_text (depth : Nat) (s : String) :
    (Outline.atom (.text s)).readValue depth = .ok (.text s) := by
  rw [Outline.readValue]

/-- A reader that finds something else than it asks for does not succeed. -/
theorem mismatch_ne_ok {α : Type} (o : Outline) (expected : Expected) (a : α) :
    (o.mismatch expected : Except ReadError α) ≠ .ok a := by
  unfold Outline.mismatch
  cases o.found <;> exact nofun

/-! ## Values that may be null -/

section Parts

variable {α : Type}

/-- Null is nothing, and anything else is read. -/
theorem readOption_eq_ok_iff {read : Outline → Except ReadError α} {o : Outline} {a? : Option α} :
    o.readOption read = .ok a? ↔
      (o = .atom .null ∧ a? = none) ∨ (o ≠ .atom .null ∧ ∃ a, read o = .ok a ∧ a? = some a) := by
  by_cases ho : o = .atom .null
  · subst ho
    simp [Outline.readOption, eq_comm]
  · have hread : o.readOption read = (read o).map some := by
      rw [Outline.readOption]
      exact ho
    rw [hread, map_eq_ok_iff]
    simp [ho, eq_comm]

/-! ## Lists -/

theorem readList_eq_ok_iff {read : Nat → Outline → Except ReadError α} {depth : Nat} {o : Outline}
    {as : List α} : o.readList depth read = .ok as ↔
      ∃ d os, depth = d + 1 ∧ o = .list os none ∧ readEach (read d) os = .ok as := by
  cases o with
  | list os flaw =>
    cases depth with
    | zero => simp [Outline.readList]
    | succ d =>
      cases flaw with
      | none => simp [Outline.readList, bind_eq_ok_iff, checkEnd, pure, Except.pure]
      | some f => simp [Outline.readList, bind_eq_ok_iff, checkEnd, Functor.map, Except.map]
  | atom a => simpa [Outline.readList] using mismatch_ne_ok _ _ _
  | unreadable f => simpa [Outline.readList] using mismatch_ne_ok _ _ _
  | broken f g h => simpa [Outline.readList] using mismatch_ne_ok _ _ _
  | object ms flaw => simpa [Outline.readList] using mismatch_ne_ok _ _ _

/-- Null is the empty list, and any other list is read item by item. -/
theorem readListOrNull_eq_ok_iff {read : Nat → Outline → Except ReadError α} {depth : Nat}
    {o : Outline} {as : List α} : o.readListOrNull depth read = .ok as ↔
      (o = .atom .null ∧ as = []) ∨
        ∃ d os, depth = d + 1 ∧ o = .list os none ∧ readEach (read d) os = .ok as := by
  rw [Outline.readListOrNull, map_eq_ok_iff]
  simp only [readOption_eq_ok_iff, readList_eq_ok_iff]
  constructor
  · rintro ⟨found, ⟨rfl, rfl⟩ | ⟨-, bs, hbs, rfl⟩, rfl⟩
    · exact .inl ⟨rfl, rfl⟩
    · exact .inr hbs
  · rintro (⟨rfl, rfl⟩ | ⟨d, os, hdepth, rfl, hos⟩)
    · exact ⟨none, .inl ⟨rfl, rfl⟩, rfl⟩
    · exact ⟨some as, .inr ⟨nofun, as, ⟨d, os, hdepth, rfl, hos⟩, rfl⟩, rfl⟩

theorem readListOrNull_list_eq_ok_iff {read : Nat → Outline → Except ReadError α} {depth : Nat}
    {os : List Outline} {as : List α} : (Outline.list os none).readListOrNull depth read = .ok as ↔
      ∃ d, depth = d + 1 ∧ readEach (read d) os = .ok as := by
  rw [readListOrNull_eq_ok_iff]
  simp

theorem readEach_ofItems {read : Outline → Except ReadError α} {write : α → Json} {as : List α}
    (h : ∀ a ∈ as, read (.ofJson (write a)) = .ok a) :
    readEach read (Outline.ofItems (as.map write)) = .ok as := by
  induction as with
  | nil => rfl
  | cons a as ih =>
    have hrest := ih fun b hb => h b (by simp [hb])
    rw [List.map_cons, Outline.ofItems, readEach, h a (by simp), hrest]
    rfl

/-- A list is read from what was written of its items. -/
theorem readListOrNull_ofJson {read : Nat → Outline → Except ReadError α} {write : α → Json}
    {as : List α} {depth : Nat} (h : ∀ a ∈ as, read depth (.ofJson (write a)) = .ok a) :
    (Outline.ofJson (.list (as.map write))).readListOrNull (depth + 1) read = .ok as :=
  readListOrNull_eq_ok_iff.mpr
    (.inr ⟨depth, _, rfl, by rw [Outline.ofJson], readEach_ofItems h⟩)

theorem exists_read_of_readEach {read : Outline → Except ReadError α} {os : List Outline}
    {as : List α} (h : readEach read os = .ok as) : ∀ a ∈ as, ∃ o, read o = .ok a := by
  induction os generalizing as with
  | nil =>
    cases h
    exact nofun
  | cons o os ih =>
    simp only [readEach, bind_eq_ok_iff] at h
    obtain ⟨b, hb, bs, hbs, hcons⟩ := h
    cases hcons
    intro a ha
    rcases List.mem_cons.mp ha with rfl | ha
    · exact ⟨o, hb⟩
    · exact ih hbs a ha

/-- Lists whose items are read as the same are read as the same. -/
theorem readEach_congr {read : Outline → Except ReadError α} {os os' : List Outline}
    (h : List.Forall₂ (fun o o' => ∀ a, read o = .ok a ↔ read o' = .ok a) os os') (as : List α) :
    readEach read os = .ok as ↔ readEach read os' = .ok as := by
  induction h generalizing as with
  | nil => exact Iff.rfl
  | cons hhead _ ih => simp only [readEach, bind_eq_ok_iff, hhead, ih]

/-- Every item of a list that was read was read itself. -/
theorem exists_read_of_readListOrNull {read : Nat → Outline → Except ReadError α} {depth : Nat}
    {o : Outline} {as : List α} (h : o.readListOrNull depth read = .ok as) :
    ∀ a ∈ as, ∃ depth o, read depth o = .ok a := by
  rcases readListOrNull_eq_ok_iff.mp h with ⟨-, rfl⟩ | ⟨d, os, -, -, hos⟩
  · exact nofun
  · intro a ha
    obtain ⟨p, hp⟩ := exists_read_of_readEach hos a ha
    exact ⟨d, p, hp⟩

end Parts

/-! ## Whole texts -/

/-- A text is read if it has one value and nothing else. -/
theorem readText_eq_ok_iff {α : Type} {read : Outline → Except ReadError α} {text : String}
    {a : α} : readText read text = .ok a ↔
      ∃ o, Document.ofText text = ⟨o, true⟩ ∧ read o = .ok a := by
  rw [readText, Document.read, bind_eq_ok_iff]
  constructor
  · rintro ⟨b, hb, hends⟩
    split at hends
    · next htrue =>
      cases hends
      refine ⟨(Document.ofText text).value, ?_, hb⟩
      rw [← htrue]
    · cases hends
  · rintro ⟨o, ho, hread⟩
    refine ⟨a, ?_, ?_⟩
    · rw [ho]
      exact hread
    · rw [ho]
      rfl

/-- What is made of a printed value, faults included, is what is made of the value. -/
theorem readText_compact {α : Type} (read : Outline → Except ReadError α) {v : Json}
    (hv : v.IsExact) : readText read v.compact = read (.ofJson v) := by
  rw [readText, ofText_compact hv, Document.read]
  cases read (.ofJson v) <;> rfl

end EdgeConsole.Json
