import Mathlib.Data.List.Nodup
import Mathlib.Logic.Relation
import EdgeConsole.Proofs.Record.Members

/-!
# Objects that say the same

Two objects say the same if one becomes the other by steps that keep what a record means
(`Restates`): members change places, come and go if no field has their name or if they say that
there is nothing, or have their value spelled otherwise. What the spellings of a value are is a
matter of its kind (`SpelledKind`). A record is read from both or from neither, and as the same
(`Schema.readText_iff_of_restated`).
-/

namespace EdgeConsole.Record

open Json (Outline Key)

/-- Kinds whose values have several spellings: which of them are alike, and which stand for the
absence of a value. -/
class SpelledKind (κ : Type) [FieldKind κ] where
  Alike : κ → Outline → Outline → Prop
  IsAbsent : κ → Outline → Prop
  read_of_alike {k : κ} {o o' : Outline} (h : Alike k o o') (depth : Nat) (v : FieldKind.Val k) :
    FieldKind.read k depth o = .ok v ↔ FieldKind.read k depth o' = .ok v
  read_of_isAbsent {k : κ} {o : Outline} (h : IsAbsent k o) (depth : Nat) (v : FieldKind.Val k) :
    FieldKind.read k depth o = .ok v ↔ FieldKind.default? k = some v

section Restating

variable {κ : Type} [FieldKind κ] [SpelledKind κ] {depth : Nat} {fs : List (FieldSpec κ)}

/-- A step from one object to another that says the same. As members may change places, the other
steps are at the front. -/
inductive Restates (fs : List (FieldSpec κ)) :
    List (Key × Outline) → List (Key × Outline) → Prop
  | reordered {ms ns : List (Key × Outline)} (h : ms.Perm ns) : Restates fs ms ns
  | unknown {name : String} {o : Outline} {ms : List (Key × Outline)}
      (hname : ∀ f ∈ fs, f.name ≠ name) (ho : o.skip = .ok ()) :
      Restates fs ms ((.text name, o) :: ms)
  | absent {f : FieldSpec κ} {o : Outline} {ms : List (Key × Outline)} (hf : f ∈ fs)
      (hms : ∀ m ∈ ms, m.1 ≠ .text f.name) (ho : SpelledKind.IsAbsent f.kind o) :
      Restates fs ms ((.text f.name, o) :: ms)
  | respelled {f : FieldSpec κ} {o o' : Outline} {ms : List (Key × Outline)} (hf : f ∈ fs)
      (ho : SpelledKind.Alike f.kind o o') :
      Restates fs ((.text f.name, o) :: ms) ((.text f.name, o') :: ms)

/-- One object becomes the other by steps either way. -/
abbrev Restated (fs : List (FieldSpec κ)) :
    List (Key × Outline) → List (Key × Outline) → Prop :=
  Relation.EqvGen (Restates fs)

/-! ## One step -/

/-- A step changes nothing of what the members say. -/
theorem Restates.readsAs_iff (hfs : Distinct fs) {ms ns : List (Key × Outline)}
    (h : Restates fs ms ns) (row : Row FieldValue fs) :
    ReadsAs depth ms row ↔ ReadsAs depth ns row := by
  cases h with
  | reordered h => exact ⟨.perm h, .perm h.symm⟩
  | @unknown name o ms hname ho =>
    refine (readsAs_cons_member_iff (.inr ⟨⟨name, rfl⟩, ho⟩) fun f hf v => ?_).symm
    have hne : Key.text name ≠ .text f.name := fun heq => hname f hf (Key.text.inj heq).symm
    rw [valuesOf_cons_of_ne hne]
  | @absent f o ms hf hms ho =>
    refine (readsAs_cons_member_iff (.inl ⟨f, hf, rfl⟩) fun g hg v => ?_).symm
    by_cases hname : f.name = g.name
    · obtain rfl := List.inj_on_of_nodup_map hfs hf hg hname
      rw [valuesOf_cons_self, valuesOf_eq_nil hms]
      exact SpelledKind.read_of_isAbsent ho depth v
    · have hne : Key.text f.name ≠ .text g.name := fun heq => hname (Key.text.inj heq)
      rw [valuesOf_cons_of_ne hne]
  | @respelled f o o' ms hf ho =>
    rw [Record.readsAs_iff, Record.readsAs_iff]
    have hpassed (p : Outline) : IsPassed fs (.text f.name, p) := .inl ⟨f, hf, rfl⟩
    simp only [List.forall_mem_cons, hpassed, true_and]
    refine and_congr_right fun _ => Row.forall_congr fun g hg v => ?_
    by_cases hname : f.name = g.name
    · obtain rfl := List.inj_on_of_nodup_map hfs hf hg hname
      rw [valuesOf_cons_self, valuesOf_cons_self, fieldReads_cons_iff, fieldReads_cons_iff]
      exact and_congr_right fun _ => SpelledKind.read_of_alike ho depth v
    · have hne : Key.text f.name ≠ .text g.name := fun heq => hname (Key.text.inj heq)
      rw [valuesOf_cons_of_ne hne, valuesOf_cons_of_ne hne]

/-! ## Many steps -/

/-- Members that say the same say the same row. -/
theorem Restated.readsAs_iff (hfs : Distinct fs) {ms ns : List (Key × Outline)}
    (h : Restated fs ms ns) (row : Row FieldValue fs) :
    ReadsAs depth ms row ↔ ReadsAs depth ns row := by
  induction h with
  | rel ms ns hstep => exact hstep.readsAs_iff hfs row
  | refl ms => exact Iff.rfl
  | symm ms ns _ ih => exact ih.symm
  | trans ms ns ps _ _ hfirst hsecond => exact hfirst.trans hsecond

/-- A record is read from both of two objects that say the same, or from neither. -/
theorem Schema.read_restated {s : Schema κ} (hs : Distinct s.fields)
    {ms ns : List (Key × Outline)} (h : Restated s.fields ms ns) (v : s.Value) :
    s.read depth (.object ms none) = .ok v ↔ s.read depth (.object ns none) = .ok v := by
  cases depth with
  | zero => simp [Schema.read]
  | succ depth =>
    rw [read_object_eq_ok_iff hs, read_object_eq_ok_iff hs]
    exact h.readsAs_iff hs v

/-- A record is read from both of two texts whose objects say the same, or from neither. -/
theorem Schema.readText_iff_of_restated {s : Schema κ} (hs : Distinct s.fields)
    {text text' : String} {ms ns : List (Key × Outline)}
    (htext : Json.Document.ofText text = ⟨.object ms none, true⟩)
    (htext' : Json.Document.ofText text' = ⟨.object ns none, true⟩)
    (h : Restated s.fields ms ns) (v : s.Value) :
    s.readText text = .ok v ↔ s.readText text' = .ok v := by
  have hread {t : String} {o : Outline} (ht : Json.Document.ofText t = ⟨o, true⟩) :
      s.readText t = .ok v ↔ s.read Json.depthLimit o = .ok v := by
    rw [Schema.readText, Json.readText_eq_ok_iff, ht]
    simp
  rw [hread htext, hread htext']
  exact Schema.read_restated hs h v

end Restating

end EdgeConsole.Record
