import EdgeConsole.Api.Versioned
import EdgeConsole.Proofs.Resource.Spelling

/-!
# Resources made of forms

What a form says of a resource is what a record with the same members says. A record whose members
are the pairs of a form, each value a text, is read as the resource that has the settings of the
form and nothing else (`VersionedKind.readText_form`): a field that is written in one way for a form
is read, under the same name and as the same value, by a reader that was made for answers.
-/

namespace EdgeConsole.Resource

open Api (creationForm changeForm)
open Json (Outline Key)
open Record (FieldSpec FieldKind FieldReads Row Schema Distinct)

/-! ## The resource that a form speaks of -/

/-- The value of a field by what was said of it: a setting that a client may set is what was said,
and everything else is absent. -/
def saidValue : (f : FieldSpec Scalar) → PatchValue f → Record.FieldValue f
  | ⟨_, .optional _, true⟩, v => v
  | ⟨_, .optional _, false⟩, _ => none
  | ⟨_, .plainText, _⟩, _ => ""
  | ⟨_, .weak w, _⟩, _ => w.default
  | ⟨_, .texts, _⟩, _ => []

/-- The row of the values that were said, followed by other fields. -/
def Patch.said {gs : List (FieldSpec Scalar)} (rest : Row Record.FieldValue gs) :
    {fs : List (FieldSpec Scalar)} → Patch fs → Row Record.FieldValue (fs ++ gs)
  | [], .nil => rest
  | f :: _, .cons v changes => .cons (saidValue f v) (Patch.said rest changes)

/-- A row of which nothing is known. -/
def absentRow : (fs : List (FieldSpec Scalar)) → Row Record.FieldValue fs
  | [] => .nil
  | f :: fs => .cons f.kind.default (absentRow fs)

/-- The resource of the given name and settings, of which nothing else is known. -/
def VersionedKind.said {k : VersionedKind} (name : String) (changes : k.Changes) : k.Item :=
  .cons "" (.cons (0 : UInt32) (.cons name (Patch.said (absentRow stamps) changes)))

/-- A value that is said of a field is proper. -/
def IsProperPatchValue : (f : FieldSpec Scalar) → PatchValue f → Prop
  | ⟨_, .optional s, true⟩, some v => s.IsProper v
  | ⟨_, .optional _, true⟩, none => True
  | ⟨_, .optional _, false⟩, _ => True
  | ⟨_, .plainText, _⟩, _ => True
  | ⟨_, .weak _, _⟩, _ => True
  | ⟨_, .texts, _⟩, _ => True

/-- All choices among the settings are proper: a director type that some code stands for, and no
choice without a name whose spelling is blank or known. -/
def Patch.IsProper {fs : List (FieldSpec Scalar)} (changes : Patch fs) : Prop :=
  Row.Forall IsProperPatchValue changes

/-! ## The members of a form -/

/-- The members of an object that has the pairs of a form, every value a text. -/
def formMembers (pairs : List Web.Form.Pair) : List (String × Json) :=
  pairs.map fun p => (p.1, .text p.2)

/-- The value by which a form speaks of a setting that a client may set, if it is there. -/
def settingValues : (f : FieldSpec Scalar) → Record.FieldValue f → List Outline
  | ⟨_, .optional s, true⟩, some v => [.atom (.text (s.formText v))]
  | ⟨_, .optional _, true⟩, none => []
  | ⟨_, .optional _, false⟩, _ => []
  | ⟨_, .plainText, _⟩, _ => []
  | ⟨_, .weak _, _⟩, _ => []
  | ⟨_, .texts, _⟩, _ => []

/-- The values by which a form speaks of a field; the field of the name has its own. -/
def formValues (names : List String) (f : FieldSpec Scalar) (x : Record.FieldValue f) :
    List Outline :=
  if f.name = "name" then names.map fun name => .atom (.text name) else settingValues f x

theorem formValues_said {names : List String} {f : FieldSpec Scalar} (hf : f.name ≠ "name")
    (v : PatchValue f) :
    (formValues names f (saidValue f v)).map (fun o => (Key.text f.name, o)) =
      Outline.ofMembers (formMembers (patchPair f v)) := by
  obtain ⟨name, kind, writable⟩ := f
  rw [formValues, if_neg hf]
  cases kind with
  | plainText => rfl
  | weak w => rfl
  | texts => rfl
  | optional s =>
    cases writable with
    | false => rfl
    | true => cases v <;> rfl

theorem ofMembers_append (ms ns : List (String × Json)) :
    Outline.ofMembers (ms ++ ns) = Outline.ofMembers ms ++ Outline.ofMembers ns := by
  simp [Outline.ofMembers_eq]

/-- The members that speak of the settings are those of the form. -/
theorem spread_said {names : List String} {gs : List (FieldSpec Scalar)}
    (rest : Row Record.FieldValue gs) {fs : List (FieldSpec Scalar)} (changes : Patch fs)
    (hfs : ∀ f ∈ fs, f.name ≠ "name") :
    (Patch.said rest changes).spread (formValues names) =
      Outline.ofMembers (formMembers changes.pairs) ++ rest.spread (formValues names) := by
  induction changes with
  | nil => rfl
  | @cons f fs v changes ih =>
    have hrest := ih fun g hg => hfs g (by simp [hg])
    have hpairs : formMembers (Patch.pairs (.cons v changes)) =
        formMembers (patchPair f v) ++ formMembers (Patch.pairs changes) := List.map_append
    show (formValues names f (saidValue f v)).map _ ++
      (Patch.said rest changes).spread (formValues names) = _
    rw [formValues_said (hfs f (by simp)), hrest, hpairs, ofMembers_append, List.append_assoc]

theorem spread_absentRow {names : List String} {fs : List (FieldSpec Scalar)}
    (hfs : ∀ f ∈ fs, f.name ≠ "name") : (absentRow fs).spread (formValues names) = [] := by
  induction fs with
  | nil => rfl
  | cons f fs ih =>
    have hrest := ih fun g hg => hfs g (by simp [hg])
    have hnone : formValues names f f.kind.default = [] := by
      obtain ⟨name, kind, writable⟩ := f
      rw [formValues, if_neg (hfs _ (by simp))]
      cases kind with
      | optional s => cases writable <;> rfl
      | plainText => rfl
      | weak w => rfl
      | texts => rfl
    show (formValues names f f.kind.default).map _ ++ (absentRow fs).spread _ = []
    rw [hnone, hrest]
    rfl

/-- The name is no setting. -/
theorem name_ne_of_mem_settings {k : VersionedKind} : ∀ f ∈ k.settings, f.name ≠ "name" := by
  cases k <;> decide

theorem name_ne_of_mem_stamps : ∀ f ∈ stamps, f.name ≠ "name" := by decide

/-- The members that speak of a resource are those of the form: the name, if it is given, and the
settings. -/
theorem VersionedKind.spread_said {k : VersionedKind} {names : List String} (name : String)
    (changes : k.Changes) :
    Row.spread (formValues names) (VersionedKind.said name changes) =
      Outline.ofMembers
        (formMembers (names.map (fun n => ("name", n)) ++ changes.pairs)) := by
  have hname : Outline.ofMembers (formMembers (names.map fun n => ("name", n))) =
      (names.map fun n => Outline.atom (.text n)).map fun o => (Key.text "name", o) := by
    simp [formMembers, Outline.ofMembers_eq, Outline.ofJson]
  have hpairs : formMembers (names.map (fun n => ("name", n)) ++ changes.pairs) =
      formMembers (names.map fun n => ("name", n)) ++ formMembers changes.pairs := List.map_append
  rw [hpairs, ofMembers_append, hname]
  show [] ++ ([] ++ ((names.map fun n => Outline.atom (.text n)).map
    (fun o => (Key.text "name", o)) ++
      (Patch.said (absentRow stamps) changes).spread (formValues names))) = _
  rw [Resource.spread_said _ changes name_ne_of_mem_settings,
    spread_absentRow name_ne_of_mem_stamps, List.append_nil]
  rfl

/-! ## Reading a form -/

/-- A setting is read from its text in a form. No client sets a time by a form. -/
theorem Setting.read_formText {s : Setting} (hs : s ≠ .instant) {x : s.Val}
    (hproper : s.IsProper x) (depth : Nat) :
    s.read depth (.atom (.text (s.formText x))) = .ok (some x) := by
  cases s with
  | text => rfl
  | number =>
    have hdigits : Record.Weak.number (.text (toString x.toNat)) = .ok (some x) :=
      number_toString x
    exact weakRead_eq_ok_iff.mpr ⟨_, Json.readValue_text .., hdigits⟩
  | flag =>
    have hnone : ∀ c ∈ ([] : List Char), Text.isBlank c = true := nofun
    have hword : SpellsFlag x (.atom (.text (flagText x))) := by
      cases x with
      | true =>
        have hone : String.ofList (['1'].map Char.toLower) ∈ flagWords true := by decide
        exact .word hnone hnone hone
      | false =>
        have hzero : String.ofList (['0'].map Char.toLower) ∈ flagWords false := by decide
        exact .word hnone hnone hzero
    obtain ⟨v, hv, hflag⟩ := hword.exists_flag depth
    exact weakRead_eq_ok_iff.mpr ⟨v, hv, hflag⟩
  | instant => exact absurd rfl hs
  | directorType =>
    have hcode : directorTypeOf (.text (toString x.code.toNat)) = .ok x := by
      rw [directorTypeOf, number_toString]
      exact congrArg Except.ok (DirectorType.ofCode_code hproper)
    exact weakRead_eq_ok_iff.mpr ⟨_, Json.readValue_text .., nonBlank_text (isBlankText_toString _) hcode⟩
  | conditionType =>
    obtain ⟨hc, hblank⟩ := ConditionType.ofText_text hproper
    refine weakRead_eq_ok_iff.mpr ⟨_, Json.readValue_text .., nonBlank_text hblank ?_⟩
    exact congrArg Except.ok hc
  | redundancy =>
    obtain ⟨hr, hblank⟩ := Redundancy.ofText_text hproper
    refine weakRead_eq_ok_iff.mpr ⟨_, Json.readValue_text .., nonBlank_text hblank ?_⟩
    exact congrArg Except.ok hr

/-- A field that a client may set is no time. -/
def IsNoTime (f : FieldSpec Scalar) : Prop := f.kind = .optional .instant → f.writable = false

/-- What a form says of a field is read as the value that was said. -/
theorem fieldReads_said {names : List String} {f : FieldSpec Scalar} (hname : f.name ≠ "name")
    (htime : IsNoTime f) {v : PatchValue f} (hproper : IsProperPatchValue f v) (depth : Nat) :
    FieldReads depth f (saidValue f v) (formValues names f (saidValue f v)) := by
  obtain ⟨name, kind, writable⟩ := f
  rw [formValues, if_neg hname]
  cases kind with
  | plainText => rfl
  | weak w => rfl
  | texts => rfl
  | optional s =>
    cases writable with
    | false => rfl
    | true =>
      cases v with
      | none => rfl
      | some x =>
        have hs : s ≠ .instant := by
          rintro rfl
          exact absurd (htime rfl) nofun
        exact Setting.read_formText hs hproper depth

theorem forall_absentRow {names : List String} {fs : List (FieldSpec Scalar)}
    (hfs : ∀ f ∈ fs, f.name ≠ "name") (depth : Nat) :
    Row.Forall (fun f x => FieldReads depth f x (formValues names f x)) (absentRow fs) := by
  induction fs with
  | nil => trivial
  | cons f fs ih =>
    refine ⟨?_, ih fun g hg => hfs g (by simp [hg])⟩
    obtain ⟨name, kind, writable⟩ := f
    rw [formValues, if_neg (hfs _ (by simp))]
    cases kind with
    | optional s => cases writable <;> rfl
    | plainText => rfl
    | weak w => rfl
    | texts => rfl

theorem forall_said {names : List String} {gs : List (FieldSpec Scalar)}
    {rest : Row Record.FieldValue gs} {depth : Nat}
    (hrest : rest.Forall fun f x => FieldReads depth f x (formValues names f x))
    {fs : List (FieldSpec Scalar)} {changes : Patch fs} (hnames : ∀ f ∈ fs, f.name ≠ "name")
    (htimes : ∀ f ∈ fs, IsNoTime f) (hproper : Patch.IsProper changes) :
    (Patch.said rest changes).Forall fun f x => FieldReads depth f x (formValues names f x) := by
  induction changes with
  | nil => exact hrest
  | @cons f fs v changes ih =>
    exact ⟨fieldReads_said (hnames f (by simp)) (htimes f (by simp)) hproper.1 depth,
      ih (fun g hg => hnames g (by simp [hg])) (fun g hg => htimes g (by simp [hg])) hproper.2⟩

theorem isExact_formMembers {pairs : List Web.Form.Pair} {ms : List (String × Json)}
    (hms : ms.Perm (formMembers pairs)) : (Json.object ms).IsExact := by
  refine .object fun m hm => ?_
  obtain ⟨p, -, rfl⟩ := List.mem_map.mp (hms.mem_iff.mp hm)
  exact .text p.2

namespace VersionedKind

variable {k : VersionedKind}

theorem isNoTime_of_mem_settings : ∀ f ∈ k.settings, IsNoTime f := by
  unfold IsNoTime
  cases k <;> decide

/-- The object of a form that says a name, or none, is read as the resource of that name and of the
settings of the form. -/
theorem readText_said (names : List String) {name : String}
    (hname : ∀ depth, FieldReads depth (weakText "name") name
      (names.map fun n => Outline.atom (.text n)))
    {changes : k.Changes} (hproper : changes.IsProper) {ms : List (String × Json)}
    (hms : ms.Perm (formMembers (names.map (fun n => ("name", n)) ++ changes.pairs))) :
    k.schema.readText (Json.object ms).compact = .ok (VersionedKind.said name changes) := by
  have hfields : Row.Forall (fun f x => FieldReads 126 f x (formValues names f x))
      (VersionedKind.said name changes) :=
    ⟨rfl, rfl, hname 126, forall_said (forall_absentRow name_ne_of_mem_stamps 126)
      name_ne_of_mem_settings isNoTime_of_mem_settings hproper⟩
  have hreads := Record.readsAs_spread (distinct_versionedSchema k) hfields
  rw [VersionedKind.spread_said] at hreads
  have hperm : (Outline.ofMembers
      (formMembers (names.map (fun n => ("name", n)) ++ changes.pairs))).Perm
        (Outline.ofMembers ms) := by
    rw [Outline.ofMembers_eq, Outline.ofMembers_eq]
    exact hms.symm.map _
  rw [Schema.readText, Json.readText_compact _ (isExact_formMembers hms), Outline.ofJson]
  exact (Schema.read_object_eq_ok_iff (distinct_versionedSchema k)).mpr (hreads.perm hperm)

/-- What is written is what is read back: an object with the pairs of the form that creates a
resource, in any order, is read as the resource of that name and those settings, every other field
absent; and so is one with the pairs of the form that changes it, with the new name if there is one
and without a name if there is none. -/
theorem readText_form (k : VersionedKind) {changes : k.Changes} (hproper : changes.IsProper) :
    (∀ (name : String) (ms : List (String × Json)),
      ms.Perm (formMembers (creationForm name changes)) →
        k.schema.readText (Json.object ms).compact = .ok (VersionedKind.said name changes)) ∧
    (∀ (newName? : Option String) (ms : List (String × Json)),
      ms.Perm (formMembers (changeForm newName? changes)) →
        k.schema.readText (Json.object ms).compact =
          .ok (VersionedKind.said (newName?.getD "") changes)) := by
  have hgiven (name : String) (depth : Nat) :
      FieldReads depth (weakText "name") name [Outline.atom (.text name)] :=
    Weak.read_write .text name depth
  refine ⟨fun name ms hms => ?_, fun newName? ms hms => ?_⟩
  · exact readText_said [name] (hgiven name) hproper hms
  · cases newName? with
    | none => exact readText_said [] (fun _ => rfl) hproper hms
    | some name => exact readText_said [name] (hgiven name) hproper hms

/-- The case of a director that gets a new name, a quorum and a type that only its code tells; the
name comes last in the record. -/
theorem readText_form_director :
    Patch.IsProper (.cons none (.cons none (.cons (some 75) (.cons (some (.other 2)) (.cons none
        (.cons () (.cons () .nil)))))) : VersionedKind.Changes .director) ∧
      (VersionedKind.schema .director).readText
          (Json.object [("quorum", .text "75"), ("type", .text "2"), ("name", .text "b")]).compact =
        .ok (.cons "" (.cons (0 : UInt32) (.cons "b" (.cons none (.cons none (.cons (some 75)
          (.cons (some (.other 2)) (.cons none (.cons none (.cons [] (.cons none (.cons none
            (.cons none .nil))))))))))))) := by
  have hproper : Patch.IsProper (.cons none (.cons none (.cons (some 75) (.cons (some (.other 2))
      (.cons none (.cons () (.cons () .nil)))))) : VersionedKind.Changes .director) :=
    ⟨trivial, trivial, trivial, ⟨2, rfl⟩, trivial, trivial, trivial, trivial⟩
  refine ⟨hproper, (readText_form .director hproper).2 (some "b") _ ?_⟩
  exact @List.perm_append_comm _ [_, _] [_]

end VersionedKind

end EdgeConsole.Resource
