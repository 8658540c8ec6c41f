import EdgeConsole.Proofs.Json.Reading
import EdgeConsole.Proofs.Record.Object

/-!
# The members of a record

Members that are written field by field are read back field by field: if each field is read from
what was written for it, the whole row is (`readsAs_spread`), in whatever order the members stand
(`ReadsAs.perm`). With that an object in the order of its names is read like one in the order of the
fields. In the other direction, every value of a row that was read is a default or was read from
something (`Schema.forall_isRead`).
-/

namespace EdgeConsole.Json

/-! ## Sorted members -/

theorem insertMember_perm {α : Type} {name : String} {members : List (String × α)}
    (h : name ∉ members.map (·.1)) (value : α) :
    (insertMember name value members).Perm ((name, value) :: members) := by
  induction members with
  | nil => exact .refl _
  | cons m rest ih =>
    obtain ⟨k, v⟩ := m
    have hne : name ≠ k := fun heq => h (by simp [heq])
    have hrest : name ∉ rest.map (·.1) := fun hmem => h (by simp [hmem])
    rw [insertMember, if_neg hne]
    split
    · exact .refl _
    · exact ((ih hrest).cons (k, v)).trans (.swap _ _ _)

/-- Members with names of their own are only put in order. -/
theorem sortMembers_perm {α : Type} {members : List (String × α)}
    (h : (members.map (·.1)).Nodup) : (sortMembers members).Perm members := by
  suffices hfold : ∀ sorted : List (String × α), ((sorted ++ members).map (·.1)).Nodup →
      (members.foldl (fun sorted m => insertMember m.1 m.2 sorted) sorted).Perm
        (sorted ++ members) from hfold [] h
  clear h
  intro sorted h
  induction members generalizing sorted with
  | nil => rw [List.append_nil]; exact .refl _
  | cons m rest ih =>
    have hmove : (m :: sorted ++ rest).Perm (sorted ++ m :: rest) := List.perm_middle.symm
    have hdistinct : ((m :: sorted ++ rest).map (·.1)).Nodup :=
      (hmove.map (·.1)).nodup_iff.mpr h
    have hnew : m.1 ∉ sorted.map (·.1) := by
      intro hmem
      rw [List.cons_append, List.map_cons, List.nodup_cons, List.map_append] at hdistinct
      exact hdistinct.1 (List.mem_append_left _ hmem)
    have hinsert := (insertMember_perm hnew m.2).append_right rest
    rw [List.foldl_cons]
    refine (ih _ ((hinsert.map (·.1)).nodup_iff.mpr hdistinct)).trans ?_
    exact hinsert.trans hmove

/-- A member whose name no other has is found by its name. -/
theorem member?_of_mem {members : List (String × Json)} (h : (members.map (·.1)).Nodup)
    {name : String} {v : Json} (hmem : (name, v) ∈ members) :
    (Json.object members).member? name = some v := by
  induction members with
  | nil => cases hmem
  | cons m rest ih =>
    obtain ⟨hfirst, hrest⟩ := List.nodup_cons.mp h
    rcases List.mem_cons.mp hmem with rfl | hmem
    · simp [member?]
    · have hne : m.1 ≠ name := by
        rintro rfl
        exact hfirst (List.mem_map.mpr ⟨_, hmem, rfl⟩)
      rw [member?, List.find?_cons_of_neg (by simpa using hne)]
      exact ih hrest hmem

end EdgeConsole.Json

namespace EdgeConsole.Record

open Json (Outline ReadError Key)
open Outcome (bind_eq_ok_iff)

/-! ## Values by name -/

theorem valuesOf_append (name : String) (ms ns : List (Key × Outline)) :
    valuesOf name (ms ++ ns) = valuesOf name ms ++ valuesOf name ns := by
  simp [valuesOf]

theorem valuesOf_cons_self (name : String) (o : Outline) (ms : List (Key × Outline)) :
    valuesOf name ((.text name, o) :: ms) = o :: valuesOf name ms := by
  simp [valuesOf]

theorem valuesOf_cons_of_ne {name : String} {m : Key × Outline} (h : m.1 ≠ .text name)
    (ms : List (Key × Outline)) : valuesOf name (m :: ms) = valuesOf name ms := by
  simp [valuesOf, h]

theorem valuesOf_eq_nil {name : String} {ms : List (Key × Outline)}
    (h : ∀ m ∈ ms, m.1 ≠ .text name) : valuesOf name ms = [] := by
  induction ms with
  | nil => rfl
  | cons m ms ih =>
    rw [valuesOf_cons_of_ne (h m (by simp))]
    exact ih fun n hn => h n (by simp [hn])

theorem valuesOf_perm {ms ns : List (Key × Outline)} (h : ms.Perm ns) (name : String) :
    (valuesOf name ms).Perm (valuesOf name ns) :=
  (h.filter _).map _

/-! ## Members written field by field -/

/-- The members that a row has when each field is spelled by the given values under its name. -/
def Row.spread {κ : Type} {β : FieldSpec κ → Type} (spell : (f : FieldSpec κ) → β f → List Outline) :
    {fs : List (FieldSpec κ)} → Row β fs → List (Key × Outline)
  | [], .nil => []
  | f :: _, .cons v rest => (spell f v).map (.text f.name, ·) ++ rest.spread spell

section Spread

variable {κ : Type} {fs : List (FieldSpec κ)} {β : FieldSpec κ → Type}
  {spell : (f : FieldSpec κ) → β f → List Outline}

theorem Row.mem_spread {row : Row β fs} {m : Key × Outline} (h : m ∈ row.spread spell) :
    ∃ f ∈ fs, m.1 = .text f.name := by
  induction row with
  | nil => cases h
  | @cons f fs v rest ih =>
    rcases List.mem_append.mp h with h | h
    · obtain ⟨o, -, rfl⟩ := List.mem_map.mp h
      exact ⟨f, by simp, rfl⟩
    · obtain ⟨g, hg, hname⟩ := ih h
      exact ⟨g, by simp [hg], hname⟩

/-- A field has the values that it was spelled by. -/
theorem Row.valuesOf_spread (spell : (f : FieldSpec κ) → β f → List Outline) (hfs : Distinct fs)
    (row : Row β fs) :
    row.Forall fun f v => valuesOf f.name (row.spread spell) = spell f v := by
  induction row with
  | nil => trivial
  | @cons f fs v rest ih =>
    obtain ⟨hf, hfs⟩ := List.nodup_cons.mp hfs
    have hown (name : String) (os : List Outline) :
        valuesOf name (os.map fun o => (.text name, o)) = os := by
      simp [valuesOf, List.filter_map, Function.comp_def]
    refine ⟨?_, (ih hfs).imp fun g hg x hx => ?_⟩
    · have hrest : valuesOf f.name (rest.spread spell) = [] := by
        apply valuesOf_eq_nil
        intro m hm hname
        obtain ⟨g, hg, hgname⟩ := Row.mem_spread hm
        rw [hname] at hgname
        exact hf (List.mem_map.mpr ⟨g, hg, (Key.text.inj hgname).symm⟩)
      show valuesOf f.name ((spell f v).map (.text f.name, ·) ++ rest.spread spell) = _
      rw [valuesOf_append, hown, hrest, List.append_nil]
    · have hfirst : valuesOf g.name ((spell f v).map fun o => (.text f.name, o)) = [] := by
        apply valuesOf_eq_nil
        intro m hm hname
        obtain ⟨o, -, rfl⟩ := List.mem_map.mp hm
        exact hf (List.mem_map.mpr ⟨g, hg, (Key.text.inj hname).symm⟩)
      show valuesOf g.name ((spell f v).map (.text f.name, ·) ++ rest.spread spell) = _
      rw [valuesOf_append, hfirst, List.nil_append]
      exact hx

end Spread

section Reading

variable {κ : Type} [FieldKind κ] {depth : Nat} {fs : List (FieldSpec κ)}

/-! ## Single members -/

/-- The member belongs to a field, or can be passed over. -/
def IsPassed (fs : List (FieldSpec κ)) (m : Key × Outline) : Prop :=
  (∃ f ∈ fs, m.1 = .text f.name) ∨ (∃ name, m.1 = .text name) ∧ m.2.skip = .ok ()

theorem readsAs_iff {ms : List (Key × Outline)} {row : Row FieldValue fs} :
    ReadsAs depth ms row ↔ (∀ m ∈ ms, IsPassed fs m) ∧
      row.Forall fun f v => FieldReads depth f v (valuesOf f.name ms) := by
  constructor
  · intro h
    refine ⟨fun m hm => ?_, h.fields⟩
    by_cases hfield : ∃ f ∈ fs, m.1 = .text f.name
    · exact .inl hfield
    · exact .inr ⟨h.named m hm, h.skipped m hm fun f hf hname => hfield ⟨f, hf, hname⟩⟩
  · rintro ⟨hpassed, hfields⟩
    refine ⟨fun m hm => ?_, fun m hm hother => ?_, hfields⟩
    · rcases hpassed m hm with ⟨f, -, hname⟩ | ⟨hname, -⟩
      · exact ⟨f.name, hname⟩
      · exact hname
    · rcases hpassed m hm with ⟨f, hf, hname⟩ | ⟨-, hskip⟩
      · exact absurd hname (hother f hf)
      · exact hskip

/-- A member that can be passed over may be put in front if no field notices. -/
theorem readsAs_cons_member_iff {m : Key × Outline} {ms : List (Key × Outline)}
    {row : Row FieldValue fs} (hm : IsPassed fs m)
    (h : ∀ f ∈ fs, ∀ v, FieldReads depth f v (valuesOf f.name (m :: ms)) ↔
      FieldReads depth f v (valuesOf f.name ms)) :
    ReadsAs depth (m :: ms) row ↔ ReadsAs depth ms row := by
  rw [readsAs_iff, readsAs_iff, Row.forall_congr h, List.forall_mem_cons]
  simp only [hm, true_and]

/-- A field with a value in front of others has no more values. -/
theorem fieldReads_cons_iff {f : FieldSpec κ} {v : FieldValue f} {o : Outline}
    {os : List Outline} :
    FieldReads depth f v (o :: os) ↔ os = [] ∧ FieldKind.read f.kind depth o = .ok v := by
  cases os <;> simp [FieldReads]

/-! ## Order -/

/-- A field has at most one value, so there is no order to its values. -/
theorem FieldReads.perm {f : FieldSpec κ} {v : FieldValue f} {os os' : List Outline}
    (h : os.Perm os') (hv : FieldReads depth f v os) : FieldReads depth f v os' := by
  match os, hv with
  | [], hv =>
    rw [List.nil_perm.mp h]
    exact hv
  | [o], hv =>
    rw [← List.singleton_perm.mp h]
    exact hv

/-- The order of the members says nothing. -/
theorem ReadsAs.perm {ms ns : List (Key × Outline)} {row : Row FieldValue fs} (h : ms.Perm ns)
    (hms : ReadsAs depth ms row) : ReadsAs depth ns row := by
  refine ⟨fun m hm => hms.named m (h.mem_iff.mpr hm),
    fun m hm => hms.skipped m (h.mem_iff.mpr hm), ?_⟩
  exact hms.fields.imp fun f _ v hv => hv.perm (valuesOf_perm h f.name)

/-- A row is read from its members if each field is read from its own. -/
theorem readsAs_spread (hfs : Distinct fs)
    {spell : (f : FieldSpec κ) → FieldValue f → List Outline} {row : Row FieldValue fs}
    (h : row.Forall fun f v => FieldReads depth f v (spell f v)) :
    ReadsAs depth (row.spread spell) row := by
  refine ⟨?_, ?_, ?_⟩
  · intro m hm
    obtain ⟨f, -, hname⟩ := Row.mem_spread hm
    exact ⟨f.name, hname⟩
  · intro m hm hother
    obtain ⟨f, hf, hname⟩ := Row.mem_spread hm
    exact absurd hname (hother f hf)
  · refine (h.and (Row.valuesOf_spread spell hfs row)).imp fun f _ v hv => ?_
    obtain ⟨hv, hvalues⟩ := hv
    rw [hvalues]
    exact hv

/-! ## Values that were read -/

/-- The value is a default or was read from something. -/
def IsRead (k : κ) (v : FieldKind.Val k) : Prop :=
  FieldKind.default? k = some v ∨ ∃ depth o, FieldKind.read k depth o = .ok v

theorem FieldReads.isRead {f : FieldSpec κ} {v : FieldValue f} {os : List Outline}
    (h : FieldReads depth f v os) : IsRead f.kind v := by
  match os, h with
  | [], h => exact .inl h
  | [o], h => exact .inr ⟨depth, o, h⟩

theorem forall_isRead_of_readPositions {title : String} {size position : Nat}
    {flaw : Option Json.Fault} {items : List Outline} {row : Row FieldValue fs}
    (h : readPositions title size depth position flaw fs items = .ok row) :
    row.Forall fun f v => IsRead f.kind v := by
  induction fs generalizing position items with
  | nil =>
    obtain _ | _ := row
    trivial
  | cons f fs ih =>
    obtain _ | ⟨v, rest⟩ := row
    cases items with
    | nil =>
      simp only [readPositions, bind_eq_ok_iff] at h
      obtain ⟨-, -, h⟩ := h
      split at h
      · next x hdefault =>
        obtain ⟨rest', hrest, hrow⟩ := bind_eq_ok_iff.mp h
        cases hrow
        exact ⟨.inl hdefault, ih hrest⟩
      · cases h
    | cons o items =>
      simp only [readPositions, bind_eq_ok_iff] at h
      obtain ⟨x, hx, rest', hrest, hrow⟩ := h
      cases hrow
      exact ⟨.inr ⟨depth, o, hx⟩, ih hrest⟩

/-- Every value of a record that was read is a default or was read itself. -/
theorem Schema.forall_isRead {s : Schema κ} (hs : Distinct s.fields) {o : Outline} {v : s.Value}
    (h : s.read depth o = .ok v) : Row.Forall (fun f x => IsRead f.kind x) v := by
  unfold Schema.read at h
  split at h
  · split at h
    · cases h
    · exact forall_isRead_of_readPositions h
  · split at h
    · cases h
    · next depth _ =>
      simp only [bind_eq_ok_iff] at h
      obtain ⟨met, hmet, -, -, hcomplete⟩ := h
      have hreads := (exists_meetAll_complete_iff hs).mp ⟨met, hmet, hcomplete⟩
      exact hreads.fields.imp fun f _ x hx => hx.isRead
  · next o _ _ =>
    unfold Outline.mismatch at h
    split at h <;> cases h

end Reading

section Writing

variable {κ : Type} [WritableKind κ] {depth : Nat}

/-- What is written of the value is read as that value. -/
def Rereads (depth : Nat) (k : κ) (v : FieldKind.Val k) : Prop :=
  FieldKind.read k depth (.ofJson (WritableKind.write k v)) = .ok v

theorem Row.ofMembers_members {fs : List (FieldSpec κ)} (row : Row FieldValue fs) :
    Outline.ofMembers row.members =
      row.spread fun f v => [.ofJson (WritableKind.write f.kind v)] := by
  induction row with
  | nil => rfl
  | cons v rest ih => rw [Row.members, Outline.ofMembers, ih]; rfl

theorem Row.map_name_members {fs : List (FieldSpec κ)} (row : Row FieldValue fs) :
    row.members.map (·.1) = fs.map (·.name) := by
  induction row with
  | nil => rfl
  | cons v rest ih => rw [Row.members, List.map_cons, ih, List.map_cons]

theorem Row.isExact_of_mem_members {fs : List (FieldSpec κ)} {row : Row FieldValue fs}
    (h : row.Forall fun f v => (WritableKind.write f.kind v).IsExact) :
    ∀ m ∈ row.members, m.2.IsExact := by
  induction row with
  | nil => exact nofun
  | cons v rest ih =>
    intro m hm
    rcases List.mem_cons.mp hm with rfl | hm
    · exact h.1
    · exact ih h.2 m hm

/-- A record is read from the members that were written of it, in any order. -/
theorem Schema.read_of_members {s : Schema κ} (hs : Distinct s.fields) {v : s.Value}
    (h : Row.Forall (fun f x => Rereads depth f.kind x) v) {ms : List (String × Json)}
    (hms : ms.Perm v.members) : s.read (depth + 1) (.ofJson (.object ms)) = .ok v := by
  have hspread : ReadsAs depth (Outline.ofMembers v.members) v := by
    rw [Row.ofMembers_members]
    exact readsAs_spread hs h
  have hperm : (Outline.ofMembers v.members).Perm (Outline.ofMembers ms) := by
    rw [Outline.ofMembers_eq, Outline.ofMembers_eq]
    exact hms.symm.map _
  rw [Outline.ofJson, Schema.read_object_eq_ok_iff hs]
  exact hspread.perm hperm

/-- The members of the written object are those of the row, in the order of their names. -/
theorem Row.sortMembers_members_perm {fs : List (FieldSpec κ)} (hfs : Distinct fs)
    (row : Row FieldValue fs) : (Json.sortMembers row.members).Perm row.members := by
  apply Json.sortMembers_perm
  rw [Row.map_name_members]
  exact hfs

theorem Row.forall_mem_members {fs : List (FieldSpec κ)} (row : Row FieldValue fs) :
    row.Forall fun f v => (f.name, WritableKind.write f.kind v) ∈ row.members := by
  induction row with
  | nil => trivial
  | cons v rest ih =>
    exact ⟨List.mem_cons_self, ih.imp fun _ _ _ hmem => List.mem_cons_of_mem _ hmem⟩

/-- Each field stands in the written object under its name. -/
theorem Row.forall_member?_toJson {fs : List (FieldSpec κ)} (hfs : Distinct fs)
    (row : Row FieldValue fs) :
    row.Forall fun f v => row.toJson.member? f.name = some (WritableKind.write f.kind v) := by
  have hperm := Row.sortMembers_members_perm hfs row
  have hnames : ((Json.sortMembers row.members).map (·.1)).Nodup := by
    rw [(hperm.map (·.1)).nodup_iff, Row.map_name_members]
    exact hfs
  exact row.forall_mem_members.imp fun f _ v hmem =>
    Json.member?_of_mem hnames (hperm.mem_iff.mpr hmem)

/-- The written object is printed and read without loss if the fields are. -/
theorem Row.isExact_toJson {fs : List (FieldSpec κ)} (hfs : Distinct fs)
    {row : Row FieldValue fs} (h : row.Forall fun f v => (WritableKind.write f.kind v).IsExact) :
    row.toJson.IsExact :=
  .object fun m hm =>
    Row.isExact_of_mem_members h m ((Row.sortMembers_members_perm hfs row).mem_iff.mp hm)

/-- A record is read from the object that was written of it. -/
theorem Schema.read_toJson {s : Schema κ} (hs : Distinct s.fields) {v : s.Value}
    (h : Row.Forall (fun f x => Rereads depth f.kind x) v) :
    s.read (depth + 1) (.ofJson v.toJson) = .ok v :=
  Schema.read_of_members hs h (Row.sortMembers_members_perm hs v)

/-- A record is read from the text of its members, in any order. -/
theorem Schema.readText_of_members {s : Schema κ} (hs : Distinct s.fields) {v : s.Value}
    (hexact : Row.Forall (fun f x => (WritableKind.write f.kind x).IsExact) v)
    (h : Row.Forall (fun f x => Rereads 126 f.kind x) v) {ms : List (String × Json)}
    (hms : ms.Perm v.members) : s.readText (Json.object ms).compact = .ok v := by
  have hobject : (Json.object ms).IsExact :=
    .object fun m hm => Row.isExact_of_mem_members hexact m (hms.mem_iff.mp hm)
  rw [readText, Json.readText_compact _ hobject]
  exact Schema.read_of_members hs h hms

end Writing

end EdgeConsole.Record
