import EdgeConsole.Proofs.Text.Utf8
import EdgeConsole.Settings.Disk
import Mathlib.Data.List.Infix

/-!
# What saving does to the files of a disk

A file is saved in steps that may fail: the folders on its way are made one after the other, it is
opened, and its bytes are written. What stands on the disk and what the disk refuses decide which
step fails, if any. Nothing happens to the file as long as it cannot be opened (`Disk.IsBlocked`);
once it is open, what it held is lost, and if its bytes cannot all be written it is left with the
first of them (`Disk.BreaksOff`). No other file is touched at all.

`Disk.save_cases` says all of this at once, and the rest follows from it.
-/

namespace EdgeConsole.Settings

/-- A file that holds a text has that text in it. -/
@[simp] theorem Content.text?_text (s : String) : (Content.text s).text? = some s := by
  rw [text?, text, Text.Utf8.decode?_encode, Option.map_some, String.ofList_toList]

theorem Content.text_injective {s t : String} (h : Content.text s = Content.text t) : s = t := by
  have htext := congrArg Content.text? h
  rwa [text?_text, text?_text, Option.some.injEq] at htext

namespace Disk

variable {d : Disk} {p q : Path}

theorem isSome_read?_iff : (d.read? p).isSome ↔ ∃ c, d.find? p = some (.file c) := by
  unfold read?
  split
  · next c hfile => simp [hfile]
  · next hother => simpa using hother

/-- What is put at a path is no concern of the files at other paths. -/
theorem read?_put_of_ne (h : q ≠ p) (e : Entry) : (d.put p e).read? q = d.read? q := by
  rw [read?, read?, find?_put_of_ne h]

/-- A folder that is made where nothing stood takes the place of no file. -/
theorem read?_put_folder (h : d.find? p = none) (q : Path) :
    (d.put p .folder).read? q = d.read? q := by
  by_cases hq : q = p
  · subst hq
    have hroot : q ≠ [] := by
      rintro rfl
      cases h
    rw [read?, read?, find?_put_self hroot, h]
  · exact read?_put_of_ne hq .folder

theorem read?_put_file (h : p ≠ []) (c : Content) (q : Path) :
    (d.put p (.file c)).read? q = if q = p then some c else d.read? q := by
  split
  · next hq => rw [hq, read?, find?_put_self h]
  · next hq => exact read?_put_of_ne hq _

/-! ## Making folders -/

/-- There is no folder at a path, and none can be made there. -/
def LacksFolder (d : Disk) (p : Path) : Prop :=
  (d.read? p).isSome ∨ d.find? p = none ∧ p ∈ d.locked

instance (d : Disk) (p : Path) : Decidable (d.LacksFolder p) :=
  inferInstanceAs (Decidable (_ ∨ _))

/-- One of the folders to be made below a folder is lacking for good. -/
def IsBlockedBelow (d : Disk) (base : Path) (names : List String) : Prop :=
  ∃ q, q <+: names ∧ q ≠ [] ∧ d.LacksFolder (base ++ q)

/-- The first folder is lacking for good, or else one of the others. -/
theorem isBlockedBelow_cons_iff {base : Path} {name : String} {names : List String} :
    d.IsBlockedBelow base (name :: names) ↔
      d.LacksFolder (base ++ [name]) ∨ d.IsBlockedBelow (base ++ [name]) names := by
  constructor
  · rintro ⟨q, hq, hne, hlacks⟩
    obtain hnil | ⟨q', rfl, hq'⟩ := List.prefix_cons_iff.mp hq
    · exact absurd hnil hne
    · by_cases hlast : q' = []
      · subst hlast
        exact .inl hlacks
      · refine .inr ⟨q', hq', hlast, ?_⟩
        rwa [List.append_assoc, List.singleton_append]
  · rintro (hlacks | ⟨q, hq, hne, hlacks⟩)
    · exact ⟨[name], List.prefix_cons_iff.mpr (.inr ⟨[], rfl, List.nil_prefix⟩),
        List.cons_ne_nil name [], hlacks⟩
    · refine ⟨name :: q, List.prefix_cons_iff.mpr (.inr ⟨q, rfl, hq⟩), List.cons_ne_nil name q, ?_⟩
      rwa [List.append_assoc, List.singleton_append] at hlacks

theorem lacksFolder_put_of_ne (h : q ≠ p) (e : Entry) :
    (d.put p e).LacksFolder q ↔ d.LacksFolder q := by
  rw [LacksFolder, LacksFolder, read?_put_of_ne h, find?_put_of_ne h, locked_put]

/-- What is put at a path is not in the way of anything below it. -/
theorem isBlockedBelow_put_iff {base : Path} {names : List String} (e : Entry) :
    (d.put base e).IsBlockedBelow base names ↔ d.IsBlockedBelow base names := by
  have hsame {q : List String} (hne : q ≠ []) :
      (d.put base e).LacksFolder (base ++ q) ↔ d.LacksFolder (base ++ q) :=
    lacksFolder_put_of_ne (fun heq => hne (List.append_right_eq_self.mp heq)) e
  constructor
  · rintro ⟨q, hq, hne, hlacks⟩
    exact ⟨q, hq, hne, (hsame hne).mp hlacks⟩
  · rintro ⟨q, hq, hne, hlacks⟩
    exact ⟨q, hq, hne, (hsame hne).mpr hlacks⟩

/-- Making a folder that is lacking for good is where making folders ends. -/
theorem makeFoldersFrom_cons_of_lacksFolder {base : Path} {name : String}
    (h : d.LacksFolder (base ++ [name])) (names : List String) :
    makeFoldersFrom base (name :: names) d = (false, d) := by
  rw [makeFoldersFrom]
  rcases h with hfile | ⟨hnone, hlocked⟩
  · obtain ⟨c, hfind⟩ := isSome_read?_iff.mp hfile
    simp only [hfind]
  · simp only [hnone, hlocked, if_true]

/-- Any other folder is there or is made, and then those below it are. -/
theorem makeFoldersFrom_cons_of_not_lacksFolder {base : Path} {name : String}
    (h : ¬d.LacksFolder (base ++ [name])) (names : List String) :
    d.find? (base ++ [name]) = some .folder ∧
        makeFoldersFrom base (name :: names) d = makeFoldersFrom (base ++ [name]) names d ∨
      d.find? (base ++ [name]) = none ∧ makeFoldersFrom base (name :: names) d =
        makeFoldersFrom (base ++ [name]) names (d.put (base ++ [name]) .folder) := by
  rw [makeFoldersFrom]
  cases hfind : d.find? (base ++ [name]) with
  | none =>
    have hlocked : base ++ [name] ∉ d.locked := fun hlocked => h (.inr ⟨hfind, hlocked⟩)
    exact .inr ⟨rfl, by simp only [hlocked, if_false]⟩
  | some e =>
    cases e with
    | file c => exact absurd (.inl (isSome_read?_iff.mpr ⟨c, hfind⟩)) h
    | folder => exact .inl ⟨rfl, rfl⟩

/-- What becomes of a disk on which folders are made, whether or not they are all there in the
end. -/
structure FoldersMade (d d' : Disk) (path : Path) : Prop where
  locked : d'.locked = d.locked
  limits : d'.limit? = d.limit?
  files : ∀ q, d'.read? q = d.read? q
  /-- What stands further down is as it was. -/
  below : ∀ q, path.length < q.length → d'.find? q = d.find? q

theorem foldersMade_makeFoldersFrom (names : List String) (base : Path) (d : Disk) :
    FoldersMade d (makeFoldersFrom base names d).2 (base ++ names) := by
  induction names generalizing base d with
  | nil => exact ⟨rfl, rfl, fun _ => rfl, fun _ _ => rfl⟩
  | cons name names ih =>
    have hsplit : base ++ name :: names = (base ++ [name]) ++ names := by simp
    rw [hsplit]
    by_cases hlacks : d.LacksFolder (base ++ [name])
    · rw [makeFoldersFrom_cons_of_lacksFolder hlacks]
      exact ⟨rfl, rfl, fun _ => rfl, fun _ _ => rfl⟩
    · obtain ⟨-, heq⟩ | ⟨hnone, heq⟩ := makeFoldersFrom_cons_of_not_lacksFolder hlacks names
      · rw [heq]
        exact ih ..
      · rw [heq]
        obtain ⟨hlocked, hlimits, hfiles, hbelow⟩ := ih (base ++ [name])
          (d.put (base ++ [name]) .folder)
        refine ⟨hlocked, hlimits, ?_, ?_⟩
        · exact fun q => (hfiles q).trans (read?_put_folder hnone q)
        · intro q hq
          have hne : q ≠ base ++ [name] := by
            rintro rfl
            simp at hq
          exact (hbelow q hq).trans (find?_put_of_ne hne .folder)

/-- Folders can be made unless one is lacking for good. -/
theorem fst_makeFoldersFrom_eq_false_iff {names : List String} {base : Path} :
    (makeFoldersFrom base names d).1 = false ↔ d.IsBlockedBelow base names := by
  induction names generalizing base d with
  | nil =>
    simp only [makeFoldersFrom, Bool.true_eq_false, false_iff]
    rintro ⟨q, hq, hne, -⟩
    exact hne (List.prefix_nil.mp hq)
  | cons name names ih =>
    rw [isBlockedBelow_cons_iff]
    by_cases hlacks : d.LacksFolder (base ++ [name])
    · rw [makeFoldersFrom_cons_of_lacksFolder hlacks]
      simp [hlacks]
    · obtain ⟨-, heq⟩ | ⟨-, heq⟩ := makeFoldersFrom_cons_of_not_lacksFolder hlacks names
      · rw [heq, ih]
        simp [hlacks]
      · rw [heq, ih, isBlockedBelow_put_iff]
        simp [hlacks]

/-- The last of the folders that are made stands there afterwards. -/
theorem find?_folder_of_makeFoldersFrom {names : List String} {base : Path}
    (h : (makeFoldersFrom base names d).1 = true) (hbase : d.find? base = some .folder) :
    (makeFoldersFrom base names d).2.find? (base ++ names) = some .folder := by
  induction names generalizing base d with
  | nil =>
    rw [List.append_nil]
    exact hbase
  | cons name names ih =>
    have hsplit : base ++ name :: names = (base ++ [name]) ++ names := by simp
    by_cases hlacks : d.LacksFolder (base ++ [name])
    · rw [makeFoldersFrom_cons_of_lacksFolder hlacks] at h
      cases h
    · obtain ⟨hfolder, heq⟩ | ⟨-, heq⟩ := makeFoldersFrom_cons_of_not_lacksFolder hlacks names
      · rw [heq] at h ⊢
        rw [hsplit]
        exact ih h hfolder
      · rw [heq] at h ⊢
        rw [hsplit]
        exact ih h (find?_put_self (by simp) .folder)

/-! ## Opening and writing -/

/-- In a folder that is there, a file can be opened unless another folder has its place or the disk
refuses it. -/
theorem opened?_eq_none_iff (h : d.find? p.dropLast = some .folder) :
    d.opened? p = none ↔ d.find? p = some .folder ∨ p ∈ d.locked := by
  unfold opened?
  split
  · next hfolder => simp [hfolder]
  · next hother _ => split <;> simp_all
  · next hlacking => exact absurd h hlacking

/-- The file that is opened is neither the root nor any other folder. -/
theorem put_of_opened? {d' : Disk} (h : d.opened? p = some d') :
    p ≠ [] ∧ d' = d.put p (.file ⟨[]⟩) := by
  unfold opened? at h
  split at h
  · cases h
  · next hother =>
    refine ⟨?_, ?_⟩
    · rintro rfl
      exact hother rfl
    · split at h
      · cases h
      · exact (Option.some.inj h).symm
  · cases h

/-- The bytes of a content cannot all be written to a file. -/
def BreaksOff (d : Disk) (p : Path) (c : Content) : Prop :=
  ∃ n, d.limit? p = some n ∧ n < c.bytes.length

/-- All bytes of a content are written, or the first of them. -/
theorem write_cases (d : Disk) (p : Path) (c : Content) :
    (¬d.BreaksOff p c ∧ d.write p c = (true, d.put p (.file c))) ∨
      ∃ n, d.limit? p = some n ∧ n < c.bytes.length ∧
        d.write p c = (false, d.put p (.file (c.start n))) := by
  rw [write, BreaksOff]
  cases hlimit : d.limit? p with
  | none => simp
  | some n => by_cases hn : n < c.bytes.length <;> simp [hn]

/-! ## Saving -/

/-- One of the folders on the way to a file is lacking for good, or the file cannot be opened:
another folder has its place, or the disk refuses it. -/
def IsBlocked (d : Disk) (p : Path) : Prop :=
  (∃ q, q <+: p.dropLast ∧ d.LacksFolder q) ∨ d.find? p = some .folder ∨ p ∈ d.locked

theorem isBlocked_iff : (∃ q ∈ p.dropLast.inits, d.LacksFolder q) ∨
    d.find? p = some .folder ∨ d.locked.contains p = true ↔ d.IsBlocked p := by
  simp only [IsBlocked, List.mem_inits, List.contains_iff_mem]

instance (d : Disk) (p : Path) : Decidable (d.IsBlocked p) :=
  decidable_of_iff _ isBlocked_iff

theorem isBlockedBelow_root_iff {names : List String} :
    d.IsBlockedBelow [] names ↔ ∃ q, q <+: names ∧ d.LacksFolder q := by
  constructor
  · rintro ⟨q, hq, -, hlacks⟩
    exact ⟨q, hq, hlacks⟩
  · rintro ⟨q, hq, hlacks⟩
    refine ⟨q, hq, ?_, hlacks⟩
    rintro rfl
    rcases hlacks with hroot | ⟨hroot, -⟩ <;> cases hroot

/-- A file is saved by making its folders, opening it and writing it. -/
theorem save_eq (d : Disk) (p : Path) (c : Content) :
    (d.IsBlocked p ∧ ∃ d', FoldersMade d d' p.dropLast ∧ d.save p c = (false, d')) ∨
      (¬d.IsBlocked p ∧ p ≠ [] ∧ ∃ d', FoldersMade d d' p.dropLast ∧
        d.save p c = (d'.put p (.file ⟨[]⟩)).write p c) := by
  have hmade := foldersMade_makeFoldersFrom p.dropLast [] d
  rw [List.nil_append] at hmade
  rw [IsBlocked, ← isBlockedBelow_root_iff, ← fst_makeFoldersFrom_eq_false_iff]
  unfold save makeFolders
  cases hfolders : makeFoldersFrom [] p.dropLast d with
  | mk done d₁ =>
    rw [hfolders] at hmade
    cases done with
    | false => exact .inl ⟨.inl rfl, d₁, hmade, rfl⟩
    | true =>
      have hfolder : d₁.find? p.dropLast = some .folder := by
        have hlast : (makeFoldersFrom [] p.dropLast d).2.find? ([] ++ p.dropLast) = some .folder :=
          find?_folder_of_makeFoldersFrom (by rw [hfolders]) rfl
        rwa [hfolders, List.nil_append] at hlast
      have hplace : d₁.find? p = d.find? p := by
        by_cases hp : p = []
        · rw [hp]
          rfl
        · have hlength := List.length_pos_iff.mpr hp
          exact hmade.below p (by rw [List.length_dropLast]; omega)
      have hopened := opened?_eq_none_iff hfolder
      rw [hplace, hmade.locked] at hopened
      rw [Bool.true_eq_false, false_or, ← hopened]
      cases hopen : d₁.opened? p with
      | none => exact .inl ⟨rfl, d₁, hmade, by simp only [hopen]⟩
      | some d₂ =>
        obtain ⟨hroot, rfl⟩ := put_of_opened? hopen
        exact .inr ⟨Option.some_ne_none _, hroot, d₁, hmade, by simp only [hopen]⟩

/-- What saving comes to. If the file cannot be opened, all files are as they were; else the file
holds all that was to be saved, or the first bytes of it if the others cannot be written. -/
theorem save_cases (d : Disk) (p : Path) (c : Content) :
    (d.IsBlocked p ∧ (d.save p c).1 = false ∧ ∀ q, (d.save p c).2.read? q = d.read? q) ∨
      (¬d.IsBlocked p ∧ ¬d.BreaksOff p c ∧ (d.save p c).1 = true ∧
        ∀ q, (d.save p c).2.read? q = if q = p then some c else d.read? q) ∨
      ¬d.IsBlocked p ∧ ∃ n, d.limit? p = some n ∧ n < c.bytes.length ∧ (d.save p c).1 = false ∧
        ∀ q, (d.save p c).2.read? q = if q = p then some (c.start n) else d.read? q := by
  have hfiles {d' : Disk} (hmade : FoldersMade d d' p.dropLast) (hroot : p ≠ []) (c' : Content)
      (q : Path) : ((d'.put p (.file ⟨[]⟩)).put p (.file c')).read? q =
        if q = p then some c' else d.read? q := by
    rw [read?_put_file hroot, read?_put_file hroot, hmade.files]
    split <;> rfl
  obtain ⟨hblocked, d', hmade, heq⟩ | ⟨hopen, hroot, d', hmade, heq⟩ := save_eq d p c
  · rw [heq]
    exact .inl ⟨hblocked, rfl, hmade.files⟩
  · have hlimit : (d'.put p (.file ⟨[]⟩)).limit? = d.limit? := hmade.limits
    obtain ⟨hwhole, hwrite⟩ | ⟨n, hn, hlength, hwrite⟩ :=
      write_cases (d'.put p (.file ⟨[]⟩)) p c
    · rw [BreaksOff, hlimit] at hwhole
      rw [heq, hwrite]
      exact .inr (.inl ⟨hopen, hwhole, rfl, hfiles hmade hroot c⟩)
    · rw [hlimit] at hn
      rw [heq, hwrite]
      exact .inr (.inr ⟨hopen, n, hn, hlength, rfl, hfiles hmade hroot (c.start n)⟩)

/-- Saving touches no other file. -/
theorem read?_save_of_ne (h : q ≠ p) (d : Disk) (c : Content) :
    (d.save p c).2.read? q = d.read? q := by
  obtain ⟨-, -, hfiles⟩ | ⟨-, -, -, hfiles⟩ | ⟨-, n, -, -, -, hfiles⟩ := save_cases d p c
  · exact hfiles q
  · rw [hfiles, if_neg h]
  · rw [hfiles, if_neg h]

/-- A file holds what was saved in it. -/
theorem read?_save_self {c : Content} (h : (d.save p c).1 = true) :
    (d.save p c).2.read? p = some c := by
  obtain ⟨-, hfails, -⟩ | ⟨-, -, -, hfiles⟩ | ⟨-, n, -, -, hfails, -⟩ := save_cases d p c
  · rw [h] at hfails
    cases hfails
  · rw [hfiles, if_pos rfl]
  · rw [h] at hfails
    cases hfails

/-- Saving fails exactly if the file cannot be opened, or its bytes cannot all be written. -/
theorem fst_save_eq_false_iff (d : Disk) (p : Path) (c : Content) :
    (d.save p c).1 = false ↔ d.IsBlocked p ∨ d.BreaksOff p c := by
  obtain ⟨hblocked, hfails, -⟩ | ⟨hopen, hwhole, hdone, -⟩ | ⟨-, n, hn, hlength, hfails, -⟩ :=
    save_cases d p c
  · exact iff_of_true hfails (.inl hblocked)
  · rw [hdone]
    simp [hopen, hwhole]
  · exact iff_of_true hfails (.inr ⟨n, hn, hlength⟩)

end Disk

end EdgeConsole.Settings
