import EdgeConsole.Record.Row
import EdgeConsole.Proofs.Outcome

/-!
# What an object means as a record

The reader walks the members of an object and the fields of a record at once. Apart from the order
in which it finds faults, the outcome is a matter of each field on its own: a field has the value
that its only member reads as, or its default if it has none (`FieldReads`), and a member of no
field has to be well formed (`ReadsAs`). `Schema.read_object_eq_ok_iff` says that these
conditions are exact; everything about the reading of objects is proved from it.
-/

namespace EdgeConsole.Record

open Json (Outline ReadError Key)
open Outcome (bind_eq_ok_iff)

/-- Every field of the row has the property. -/
def Row.Forall {κ : Type} {β : FieldSpec κ → Type} (p : (f : FieldSpec κ) → β f → Prop) :
    {fs : List (FieldSpec κ)} → Row β fs → Prop
  | [], .nil => True
  | f :: _, .cons v rest => p f v ∧ rest.Forall p

theorem Row.forall_of {κ : Type} {β : FieldSpec κ → Type} {p : (f : FieldSpec κ) → β f → Prop}
    (h : ∀ f v, p f v) {fs : List (FieldSpec κ)} (row : Row β fs) : row.Forall p := by
  induction row with
  | nil => trivial
  | cons v rest ih => exact ⟨h _ v, ih⟩

theorem Row.Forall.imp {κ : Type} {β : FieldSpec κ → Type}
    {p q : (f : FieldSpec κ) → β f → Prop} {fs : List (FieldSpec κ)} {row : Row β fs}
    (h : ∀ f ∈ fs, ∀ v, p f v → q f v) (hrow : row.Forall p) : row.Forall q := by
  induction row with
  | nil => trivial
  | @cons f fs v rest ih =>
    exact ⟨h f (by simp) v hrow.1, ih (fun g hg => h g (by simp [hg])) hrow.2⟩

/-- A row has a value for each of its fields. -/
theorem Row.Forall.exists_value {κ : Type} {β : FieldSpec κ → Type}
    {p : (f : FieldSpec κ) → β f → Prop} {fs : List (FieldSpec κ)} {row : Row β fs}
    (h : row.Forall p) {f : FieldSpec κ} (hf : f ∈ fs) : ∃ v, p f v := by
  induction row with
  | nil => cases hf
  | cons v rest ih =>
    rcases List.mem_cons.mp hf with rfl | hf
    · exact ⟨v, h.1⟩
    · exact ih h.2 hf

theorem Row.forall_congr {κ : Type} {β : FieldSpec κ → Type}
    {p q : (f : FieldSpec κ) → β f → Prop} {fs : List (FieldSpec κ)} {row : Row β fs}
    (h : ∀ f ∈ fs, ∀ v, p f v ↔ q f v) : row.Forall p ↔ row.Forall q :=
  ⟨fun hp => hp.imp fun f hf v => (h f hf v).mp, fun hq => hq.imp fun f hf v => (h f hf v).mpr⟩

theorem Row.Forall.and {κ : Type} {β : FieldSpec κ → Type} {p q : (f : FieldSpec κ) → β f → Prop}
    {fs : List (FieldSpec κ)} {row : Row β fs} (hp : row.Forall p) (hq : row.Forall q) :
    row.Forall fun f v => p f v ∧ q f v := by
  induction row with
  | nil => trivial
  | cons v rest ih => exact ⟨⟨hp.1, hq.1⟩, ih hp.2 hq.2⟩

/-- No two fields have one name. -/
def Distinct {κ : Type} (fs : List (FieldSpec κ)) : Prop := (fs.map (·.name)).Nodup

instance {κ : Type} (fs : List (FieldSpec κ)) : Decidable (Distinct fs) :=
  inferInstanceAs (Decidable (fs.map (·.name)).Nodup)

/-- The values of the members of the given name. -/
def valuesOf (name : String) (ms : List (Key × Outline)) : List Outline :=
  (ms.filter (·.1 = .text name)).map (·.2)

section Reading

variable {κ : Type} [FieldKind κ] {depth : Nat}

/-- The value of a field, by the values of the members that have its name. -/
def FieldReads (depth : Nat) (f : FieldSpec κ) (v : FieldValue f) : List Outline → Prop
  | [] => FieldKind.default? f.kind = some v
  | [o] => FieldKind.read f.kind depth o = .ok v
  | _ => False

/-- What has been met of a field after the members of its name, by what was met before. -/
def Meets (depth : Nat) (f : FieldSpec κ) : MetValue f → List Outline → MetValue f → Prop
  | old, [], new => new = old
  | none, [o], new => ∃ v, FieldKind.read f.kind depth o = .ok v ∧ new = some v
  | _, _, _ => False

theorem meets_cons_iff {f : FieldSpec κ} {old new : MetValue f} {o : Outline}
    {os : List Outline} :
    Meets depth f old (o :: os) new ↔
      old = none ∧ ∃ v, FieldKind.read f.kind depth o = .ok v ∧ Meets depth f (some v) os new := by
  cases old with
  | some x => simp [Meets]
  | none => cases os <;> simp [Meets]

theorem key_read_eq_ok_iff {key : Key} {name : String} :
    key.read = .ok name ↔ key = .text name := by
  cases key <;> simp [Key.read]

/-- A member is met first, and then the others. -/
theorem meetAll_cons_members {fs : List (FieldSpec κ)} {m : Key × Outline}
    {ms : List (Key × Outline)} {row result : Row MetValue fs} :
    meetAll depth (m :: ms) row = .ok result ↔
      ∃ name, m.1 = .text name ∧ ∃ next, meet depth name m.2 row = .ok next ∧
        meetAll depth ms next = .ok result := by
  obtain ⟨key, o⟩ := m
  simp only [meetAll, bind_eq_ok_iff, key_read_eq_ok_iff]

/-- What a member does to the first field. -/
theorem meet_cons_eq_ok_iff {f : FieldSpec κ} {fs : List (FieldSpec κ)} {name : String}
    {o : Outline} {old : MetValue f} {row : Row MetValue fs} {next : Row MetValue (f :: fs)} :
    meet depth name o (.cons old row) = .ok next ↔
      if f.name = name then
        old = none ∧ ∃ v, FieldKind.read f.kind depth o = .ok v ∧ .cons (some v) row = next
      else ∃ rest, meet depth name o row = .ok rest ∧ .cons old rest = next := by
  by_cases h : f.name = name
  · cases old <;> simp [meet, h, bind_eq_ok_iff, pure, Except.pure]
  · cases old <;> simp [meet, h, bind_eq_ok_iff, pure, Except.pure]

/-- Members other than those of the first field are met by the fields behind it. -/
theorem meetAll_cons_eq_ok_iff {f : FieldSpec κ} {fs : List (FieldSpec κ)}
    {ms : List (Key × Outline)} {old : MetValue f} {row : Row MetValue fs}
    {result : Row MetValue (f :: fs)} :
    meetAll depth ms (.cons old row) = .ok result ↔
      ∃ new rest, result = .cons new rest ∧ Meets depth f old (valuesOf f.name ms) new ∧
        meetAll depth (ms.filter (·.1 ≠ .text f.name)) row = .ok rest := by
  induction ms generalizing old row with
  | nil => simp [meetAll, valuesOf, Meets, eq_comm]
  | cons m ms ih =>
    rw [meetAll_cons_members]
    by_cases hm : m.1 = .text f.name
    · have hvalues : valuesOf f.name (m :: ms) = m.2 :: valuesOf f.name ms := by
        simp [valuesOf, hm]
      have hothers : (m :: ms).filter (·.1 ≠ .text f.name) = ms.filter (·.1 ≠ .text f.name) := by
        simp [hm]
      rw [hvalues, hothers]
      simp only [hm, Key.text.injEq, exists_eq_left', meet_cons_eq_ok_iff, if_true, meets_cons_iff]
      constructor
      · rintro ⟨next, ⟨hold, v, hv, rfl⟩, hall⟩
        obtain ⟨new, rest, rfl, hnew, hrest⟩ := ih.mp hall
        exact ⟨new, rest, rfl, ⟨hold, v, hv, hnew⟩, hrest⟩
      · rintro ⟨new, rest, rfl, ⟨hold, v, hv, hnew⟩, hrest⟩
        exact ⟨_, ⟨hold, v, hv, rfl⟩, ih.mpr ⟨new, rest, rfl, hnew, hrest⟩⟩
    · have hvalues : valuesOf f.name (m :: ms) = valuesOf f.name ms := by
        simp [valuesOf, hm]
      have hothers : (m :: ms).filter (·.1 ≠ .text f.name) =
          m :: ms.filter (·.1 ≠ .text f.name) := by
        simp [hm]
      rw [hvalues, hothers]
      simp only [meetAll_cons_members]
      constructor
      · rintro ⟨name, hname, next, hnext, hall⟩
        have hne : f.name ≠ name := by
          rintro rfl
          exact hm hname
        rw [meet_cons_eq_ok_iff, if_neg hne] at hnext
        obtain ⟨row', hrow', rfl⟩ := hnext
        obtain ⟨new, rest, rfl, hnew, hrest⟩ := ih.mp hall
        exact ⟨new, rest, rfl, hnew, name, hname, row', hrow', hrest⟩
      · rintro ⟨new, rest, rfl, hnew, name, hname, row', hrow', hrest⟩
        have hne : f.name ≠ name := by
          rintro rfl
          exact hm hname
        refine ⟨name, hname, .cons old row', ?_, ih.mpr ⟨new, rest, rfl, hnew, hrest⟩⟩
        rw [meet_cons_eq_ok_iff, if_neg hne]
        exact ⟨row', hrow', rfl⟩

/-- A field has the value that was met, or else its default. -/
theorem complete_cons_eq_ok_iff {f : FieldSpec κ} {fs : List (FieldSpec κ)} {met : MetValue f}
    {row : Row MetValue fs} {v : FieldValue f} {rest : Row FieldValue fs} :
    complete (.cons met row) = .ok (.cons v rest) ↔
      (met = some v ∨ met = none ∧ FieldKind.default? f.kind = some v) ∧
        complete row = .ok rest := by
  cases met with
  | some x => simp [complete, bind_eq_ok_iff, pure, Except.pure, and_left_comm]
  | none =>
    cases hdefault : FieldKind.default? f.kind with
    | none => simp [complete, hdefault]
    | some x => simp [complete, hdefault, bind_eq_ok_iff, pure, Except.pure, and_left_comm]

/-- A field that starts unmet has the value that its members give it. -/
theorem meets_unmet_iff {f : FieldSpec κ} {v : FieldValue f} {os : List Outline} :
    (∃ met, Meets depth f none os met ∧
      (met = some v ∨ met = none ∧ FieldKind.default? f.kind = some v)) ↔
      FieldReads depth f v os := by
  match os with
  | [] => simp [Meets, FieldReads]
  | [o] =>
    constructor
    · rintro ⟨met, ⟨x, hx, rfl⟩, hv⟩
      obtain rfl : x = v := by simpa using hv
      exact hx
    · intro hv
      exact ⟨some v, ⟨v, hv, rfl⟩, .inl rfl⟩
  | o :: o' :: os => simp [Meets, FieldReads]

/-- The members say what the row holds, and nothing that cannot be read. -/
structure ReadsAs (depth : Nat) {fs : List (FieldSpec κ)} (ms : List (Key × Outline))
    (row : Row FieldValue fs) : Prop where
  named : ∀ m ∈ ms, ∃ name, m.1 = .text name
  skipped : ∀ m ∈ ms, (∀ f ∈ fs, m.1 ≠ .text f.name) → m.2.skip = .ok ()
  fields : row.Forall fun f v => FieldReads depth f v (valuesOf f.name ms)

/-- Members that belong to no field are only looked through. -/
theorem meetAll_nil_eq_ok_iff {ms : List (Key × Outline)} :
    meetAll depth ms (.nil : Row (κ := κ) MetValue []) = .ok .nil ↔
      ∀ m ∈ ms, (∃ name, m.1 = .text name) ∧ m.2.skip = .ok () := by
  induction ms with
  | nil => simp [meetAll]
  | cons m ms ih =>
    have hmeet (name : String) (next : Row (κ := κ) MetValue []) :
        meet depth name m.2 .nil = .ok next ↔ m.2.skip = .ok () ∧ .nil = next := by
      simp only [meet, bind_eq_ok_iff, pure, Except.pure, Except.ok.injEq]
      exact ⟨fun ⟨_, h⟩ => h, fun h => ⟨_, h⟩⟩
    rw [meetAll_cons_members]
    simp only [hmeet, List.forall_mem_cons]
    constructor
    · rintro ⟨name, hname, next, ⟨hskip, rfl⟩, hall⟩
      exact ⟨⟨⟨name, hname⟩, hskip⟩, ih.mp hall⟩
    · rintro ⟨⟨⟨name, hname⟩, hskip⟩, hall⟩
      exact ⟨name, hname, .nil, ⟨hskip, rfl⟩, ih.mpr hall⟩

/-- Taking away the members of one field takes nothing from the other fields. -/
theorem valuesOf_filter_of_ne {name other : String} (h : name ≠ other)
    (ms : List (Key × Outline)) :
    valuesOf name (ms.filter (·.1 ≠ .text other)) = valuesOf name ms := by
  have hpred (m : Key × Outline) :
      (decide (m.1 = .text name) && decide (m.1 ≠ .text other)) = decide (m.1 = .text name) := by
    by_cases hm : m.1 = .text name
    · simp [hm, h]
    · simp [hm]
  simp only [valuesOf, List.filter_filter, hpred]

theorem readsAs_cons_iff {f : FieldSpec κ} {fs : List (FieldSpec κ)} (hfs : Distinct (f :: fs))
    {ms : List (Key × Outline)} {v : FieldValue f} {rest : Row FieldValue fs} :
    ReadsAs depth ms (.cons v rest) ↔ FieldReads depth f v (valuesOf f.name ms) ∧
      ReadsAs depth (ms.filter (·.1 ≠ .text f.name)) rest := by
  have hvalues : ∀ g ∈ fs, valuesOf g.name (ms.filter (·.1 ≠ .text f.name)) = valuesOf g.name ms :=
    fun g hg => valuesOf_filter_of_ne
      (fun h => (List.nodup_cons.mp hfs).1 (List.mem_map.mpr ⟨g, hg, h⟩)) ms
  constructor
  · intro h
    refine ⟨h.fields.1, ?_, ?_, h.fields.2.imp fun g hg x hx => by rwa [hvalues g hg]⟩
    · intro m hm
      exact h.named m (List.mem_filter.mp hm).1
    · intro m hm hother
      obtain ⟨hmem, hne⟩ := List.mem_filter.mp hm
      refine h.skipped m hmem fun g hg => ?_
      rcases List.mem_cons.mp hg with rfl | hg
      · simpa using hne
      · exact hother g hg
  · rintro ⟨hf, h⟩
    refine ⟨?_, ?_, hf, h.fields.imp fun g hg x hx => by rwa [hvalues g hg] at hx⟩
    · intro m hm
      by_cases hne : m.1 = .text f.name
      · exact ⟨_, hne⟩
      · exact h.named m (List.mem_filter.mpr ⟨hm, by simpa using hne⟩)
    · intro m hm hother
      have hne : m.1 ≠ .text f.name := hother f (by simp)
      exact h.skipped m (List.mem_filter.mpr ⟨hm, by simpa using hne⟩)
        fun g hg => hother g (by simp [hg])

/-- Meeting all members and then filling the gaps gives the row that the members say. -/
theorem exists_meetAll_complete_iff {fs : List (FieldSpec κ)} (hfs : Distinct fs)
    {ms : List (Key × Outline)} {row : Row FieldValue fs} :
    (∃ met, meetAll depth ms (unmet fs) = .ok met ∧ complete met = .ok row) ↔
      ReadsAs depth ms row := by
  induction fs generalizing ms with
  | nil =>
    obtain _ | _ := row
    constructor
    · rintro ⟨_ | _, hall, -⟩
      have h := meetAll_nil_eq_ok_iff.mp hall
      exact ⟨fun m hm => (h m hm).1, fun m hm _ => (h m hm).2, trivial⟩
    · intro h
      exact ⟨.nil, meetAll_nil_eq_ok_iff.mpr fun m hm =>
        ⟨h.named m hm, h.skipped m hm (by simp)⟩, rfl⟩
  | cons f fs ih =>
    obtain _ | ⟨v, rest⟩ := row
    rw [readsAs_cons_iff hfs, ← meets_unmet_iff, ← ih (List.nodup_cons.mp hfs).2]
    simp only [unmet, meetAll_cons_eq_ok_iff]
    constructor
    · rintro ⟨_, ⟨new, met, rfl, hnew, hall⟩, hcomplete⟩
      obtain ⟨hv, hrest⟩ := complete_cons_eq_ok_iff.mp hcomplete
      exact ⟨⟨new, hnew, hv⟩, met, hall, hrest⟩
    · rintro ⟨⟨new, hnew, hv⟩, met, hall, hrest⟩
      exact ⟨_, ⟨new, met, rfl, hnew, hall⟩, complete_cons_eq_ok_iff.mpr ⟨hv, hrest⟩⟩

/-- An object is read as a row exactly if its members say that row. -/
theorem Schema.read_object_eq_ok_iff {s : Schema κ} (hs : Distinct s.fields)
    {ms : List (Key × Outline)} {v : s.Value} :
    s.read (depth + 1) (.object ms none) = .ok v ↔ ReadsAs depth ms v := by
  rw [← exists_meetAll_complete_iff hs]
  simp [Schema.read, bind_eq_ok_iff, Json.checkEnd]

end Reading

end EdgeConsole.Record
