import EdgeConsole.Proofs.Api.Resolution

/-!
# Where subjects stand

The subject of an operation within a version is a collection, an item of one or a link. Subjects
stand in one place if they are one, and otherwise in a few cases only, all of which need a dotted
name (`Subject.place_eq_iff`): a name `..` takes an item or a link for something in the folder
above, and `.` takes it for its folder.

Services and versions are never mistaken: what is left of them in a path tells them apart
(`VersionRef.base_append_inj`).
-/

namespace EdgeConsole.Api

open Resource (VersionedKind)
open Web (escape)

/-! ## Subjects -/

/-- The identifier is one of the two dotted ones. -/
def IsDots (s : String) : Prop := s = "." ∨ s = ".."

/-- What an operation is about within a version. -/
inductive Subject
  | collection (k : VersionedKind)
  | item (k : VersionedKind) (name : String)
  | link (director backend : String)
deriving DecidableEq, Repr

/-- No name in the subject is empty. -/
def Subject.IsNamed : Subject → Prop
  | .collection _ => True
  | .item _ name => name ≠ ""
  | .link director backend => director ≠ "" ∧ backend ≠ ""

/-- The subject is a whole collection. -/
def Subject.isCollection : Subject → Bool
  | .collection _ => true
  | _ => false

/-- No name in the subject is one of the two dotted ones. -/
def Subject.IsUndotted : Subject → Prop
  | .collection _ => True
  | .item _ name => ¬ IsDots name
  | .link director backend => ¬ IsDots director ∧ ¬ IsDots backend

/-- Where the subject stands below its version. -/
def Subject.place : Subject → List (List Char)
  | .collection k => kindChars k
  | .item k name => below (kindChars k) name
  | .link director backend => below (linkFolder director) backend

/-- The first subject is taken for the second. -/
inductive Mistaken : Subject → Subject → Prop
  | sibling {k k' : VersionedKind} (hne : k ≠ k')
      (h : (kindWords k).dropLast = (kindWords k').dropLast) :
      Mistaken (.item k "..") (.item k' "..")
  | backendItem (backend : String) : Mistaken (.link ".." backend) (.item .backend backend)
  | versionFolder {k : VersionedKind} (h : (kindWords k).dropLast = []) :
      Mistaken (.link ".." "..") (.item k "..")
  | directorFolder : Mistaken (.link "." "..") (.item .director ".")
  | backendFolder : Mistaken (.link "backend" "..") (.link "." ".")

namespace Mistaken

variable {a b : Subject}

/-- What is mistaken is something else. -/
theorem ne (h : Mistaken a b) : a ≠ b := by
  intro hsame
  cases h with
  | sibling hne h => exact hne (Subject.item.inj hsame).1
  | backendItem backend => cases hsame
  | versionFolder h => cases hsame
  | directorFolder => cases hsame
  | backendFolder => exact absurd (Subject.link.inj hsame).2 (by decide)

/-- What is mistaken has a dotted name. -/
theorem not_isUndotted (h : Mistaken a b) : ¬ a.IsUndotted := by
  cases h with
  | sibling hne h => exact fun hundotted => hundotted (.inr rfl)
  | backendItem backend => exact fun hundotted => hundotted.1 (.inr rfl)
  | versionFolder h => exact fun hundotted => hundotted.1 (.inr rfl)
  | directorFolder => exact fun hundotted => hundotted.1 (.inl rfl)
  | backendFolder => exact fun hundotted => hundotted.2 (.inr rfl)

theorem isCollection_eq (h : Mistaken a b) : a.isCollection = b.isCollection := by
  cases h <;> rfl

end Mistaken

/-! ## Versions -/

theorem identifier_chars_inj {s t : String} (h : (escape s).toList = (escape t).toList) : s = t :=
  Web.escape_inj.mp (String.toList_inj.mp h)

theorem number_chars_inj {n n' : UInt32} (h : Part.chars (.number n) = Part.chars (.number n')) :
    n = n' := by
  have hdigits : Nat.toDigits 10 n.toNat = Nat.toDigits 10 n'.toNat := by
    rw [← Nat.toList_repr, ← Nat.toList_repr]
    exact h
  have hvalue := congrArg (Nat.ofDigitChars 10 · 0) hdigits
  simp only [Nat.ofDigitChars_ten_toDigits] at hvalue
  exact UInt32.toNat_inj.mp hvalue

theorem VersionRef.base_cases (r : VersionRef) :
    (r.service = ".." ∧ r.base = [Part.chars (.word .version), Part.chars (.number r.version)]) ∨
      (r.service = "." ∧ r.base = [Part.chars (.word .service), Part.chars (.word .version),
        Part.chars (.number r.version)]) ∨
      r.base = [Part.chars (.word .service), (escape r.service).toList,
        Part.chars (.word .version), Part.chars (.number r.version)] := by
  rw [base]
  rcases through_cases [Part.chars (.word .service)] r.service with
    ⟨hs, hthrough⟩ | ⟨hs, hthrough⟩ | ⟨-, -, hthrough⟩
  · exact .inl ⟨hs, by rw [hthrough]; rfl⟩
  · exact .inr (.inl ⟨hs, by rw [hthrough]; rfl⟩)
  · exact .inr (.inr (by rw [hthrough]; rfl))

/-- What is left of a service and a version tells which they were, whatever follows. -/
theorem VersionRef.base_append_inj {r r' : VersionRef} {xs ys : List (List Char)}
    (h : r.base ++ xs = r'.base ++ ys) : r = r' ∧ xs = ys := by
  have hwords : Part.chars (.word .service) ≠ Part.chars (.word .version) := by decide
  have hnumber (n : UInt32) : Part.chars (.word .version) ≠ Part.chars (.number n) := fun h =>
    Part.toString_ne (s := "version") (c := 'v') (by decide) rfl (String.toList_inj.mp h).symm
  have hsame (hs : r.service = r'.service) (hv : r.version = r'.version) : r = r' := by
    cases r
    cases r'
    exact (VersionRef.mk.injEq ..).mpr ⟨hs, hv⟩
  rcases r.base_cases with ⟨hs, hb⟩ | ⟨hs, hb⟩ | hb <;>
    rcases r'.base_cases with ⟨hs', hb'⟩ | ⟨hs', hb'⟩ | hb' <;>
      rw [hb, hb'] at h <;>
      simp only [List.cons_append, List.nil_append, List.cons.injEq, true_and] at h
  · exact ⟨hsame (hs.trans hs'.symm) (number_chars_inj h.1), h.2⟩
  · exact absurd h.1.symm hwords
  · exact absurd h.1.symm hwords
  · exact absurd h.1 hwords
  · exact ⟨hsame (hs.trans hs'.symm) (number_chars_inj h.1), h.2⟩
  · exact absurd h.2.1.symm (hnumber _)
  · exact absurd h.1 hwords
  · exact absurd h.2.1 (hnumber _)
  · exact ⟨hsame (identifier_chars_inj h.1) (number_chars_inj h.2.1), h.2.2⟩

/-! ## Kinds and folders -/

/-- The kind whose path a list of segments is. -/
def kindOf? (segments : List (List Char)) : Option VersionedKind :=
  VersionedKind.all.find? (kindChars · == segments)

theorem kindOf?_kindChars (k : VersionedKind) : kindOf? (kindChars k) = some k := by
  cases k <;> decide +kernel

theorem kindChars_inj {k k' : VersionedKind} (h : kindChars k = kindChars k') : k = k' := by
  have hkinds := congrArg kindOf? h
  rw [kindOf?_kindChars, kindOf?_kindChars] at hkinds
  exact Option.some.inj hkinds

theorem nil_not_mem_kindChars (k : VersionedKind) : [] ∉ kindChars k := by
  cases k <;> decide

theorem dropLast_kindChars (k : VersionedKind) :
    (kindChars k).dropLast = ((kindWords k).dropLast.map Part.word).map Part.chars := by
  rw [kindChars, kindParts, List.map_dropLast, List.map_dropLast]

/-- Kinds stand in the folder of the version itself, or in the one of the logs. -/
theorem dropLast_kindWords (k : VersionedKind) :
    (kindWords k).dropLast = [] ∨ (kindWords k).dropLast = [.logging] := by
  cases k <;> decide

theorem dropLast_kindWords_of_kindChars {k k' : VersionedKind}
    (h : (kindChars k).dropLast = (kindChars k').dropLast) :
    (kindWords k).dropLast = (kindWords k').dropLast := by
  rw [dropLast_kindChars, dropLast_kindChars] at h
  rcases dropLast_kindWords k with hk | hk <;> rcases dropLast_kindWords k' with hk' | hk' <;>
    rw [hk, hk'] at h ⊢ <;> cases h

theorem kindChars_ne_logging (k : VersionedKind) : kindChars k ≠ [Part.chars (.word .logging)] := by
  cases k <;> decide

/-- No kind and no folder of links is the folder of another kind. -/
theorem dropLast_kindChars_ne {folder : List (List Char)} (hne : folder ≠ [])
    (hlogging : folder ≠ [Part.chars (.word .logging)]) (k : VersionedKind) :
    (kindChars k).dropLast ≠ folder := by
  rw [dropLast_kindChars]
  rcases dropLast_kindWords k with h | h <;> rw [h]
  · exact hne.symm
  · exact hlogging.symm

/-- The forms of the folder of a director. -/
theorem through_director_cases (d : String) :
    (d = ".." ∧ through (kindChars .director) d = []) ∨
      (d = "." ∧ through (kindChars .director) d = [Part.chars (.word .director)]) ∨
      (d ≠ "." ∧ d ≠ ".." ∧
        through (kindChars .director) d = [Part.chars (.word .director), (escape d).toList]) :=
  through_cases (kindChars .director) d

theorem through_director_inj {d d' : String}
    (h : through (kindChars .director) d = through (kindChars .director) d') : d = d' := by
  rcases through_director_cases d with ⟨hname, hd⟩ | ⟨hname, hd⟩ | ⟨-, -, hd⟩ <;>
    rcases through_director_cases d' with ⟨hname', hd'⟩ | ⟨hname', hd'⟩ | ⟨-, -, hd'⟩ <;>
      rw [hd, hd'] at h
  · exact hname.trans hname'.symm
  · cases h
  · cases h
  · cases h
  · exact hname.trans hname'.symm
  · cases (List.cons.inj h).2
  · cases h
  · cases (List.cons.inj h).2
  · exact identifier_chars_inj (List.cons.inj (List.cons.inj h).2).1

theorem linkFolder_ne_nil (d : String) : linkFolder d ≠ [] :=
  List.append_ne_nil_of_right_ne_nil _ (List.cons_ne_nil _ _)

theorem dropLast_linkFolder (d : String) :
    (linkFolder d).dropLast = through (kindChars .director) d :=
  List.dropLast_concat

theorem linkFolder_ne_logging (d : String) : linkFolder d ≠ [Part.chars (.word .logging)] := by
  intro h
  have hmem : Part.chars (.word .backend) ∈ [Part.chars (.word .logging)] := by
    rw [← h, linkFolder]
    exact List.mem_append_right _ List.mem_cons_self
  exact absurd (List.mem_singleton.mp hmem) (by decide)

theorem linkFolder_inj {d d' : String} (h : linkFolder d = linkFolder d') : d = d' :=
  through_director_inj (List.append_cancel_right h)

/-- A kind stands in the folder of a director only if the director is left again. -/
theorem dropLast_kindChars_eq_through {k : VersionedKind} {d : String}
    (h : (kindChars k).dropLast = through (kindChars .director) d) :
    (kindWords k).dropLast = [] ∧ d = ".." := by
  rcases through_director_cases d with ⟨hdotdot, hd⟩ | ⟨-, hd⟩ | ⟨-, -, hd⟩
  · refine ⟨?_, hdotdot⟩
    rw [hd, dropLast_kindChars, List.map_eq_nil_iff, List.map_eq_nil_iff] at h
    exact h
  · exact absurd (h.trans hd) (dropLast_kindChars_ne (by decide) (by decide) k)
  · refine absurd (h.trans hd) (dropLast_kindChars_ne (List.cons_ne_nil _ _) ?_ k)
    intro h
    cases (List.cons.inj h).2

/-- The folder of links is where a kind stands only without its director. -/
theorem kindChars_eq_linkFolder {k : VersionedKind} {d : String} (h : kindChars k = linkFolder d) :
    k = .backend ∧ d = ".." := by
  have hfolder : (kindChars k).dropLast = through (kindChars .director) d := by
    rw [h, dropLast_linkFolder]
  obtain ⟨-, rfl⟩ := dropLast_kindChars_eq_through hfolder
  exact ⟨kindChars_inj h, rfl⟩

theorem kindChars_eq_through {k : VersionedKind} {d : String}
    (h : kindChars k = through (kindChars .director) d) : k = .director ∧ d = "." := by
  rcases through_director_cases d with ⟨-, hd⟩ | ⟨hdot, hd⟩ | ⟨-, -, hd⟩
  · exact absurd (h.trans hd) (kindChars_ne_nil k)
  · exact ⟨kindChars_inj (h.trans hd), hdot⟩
  · have hfolder : (kindChars k).dropLast = [Part.chars (.word .director)] := by
      rw [h, hd]
      rfl
    exact absurd hfolder (dropLast_kindChars_ne (by decide) (by decide) k)

theorem linkFolder_eq_through {d d' : String}
    (h : linkFolder d = through (kindChars .director) d') : d = "." ∧ d' = "backend" := by
  have hbackend : Part.chars (.word .backend) = (escape "backend").toList := by decide
  have hne : Part.chars (.word .backend) ≠ Part.chars (.word .director) := by decide
  rw [linkFolder] at h
  rcases through_director_cases d with ⟨-, hd⟩ | ⟨hdot, hd⟩ | ⟨-, -, hd⟩ <;>
    rcases through_director_cases d' with ⟨-, hd'⟩ | ⟨-, hd'⟩ | ⟨-, -, hd'⟩ <;>
      rw [hd, hd'] at h
  · cases h
  · exact absurd (List.cons.inj h).1 hne
  · cases (List.cons.inj h).2
  · cases h
  · cases (List.cons.inj h).2
  · rw [hbackend] at h
    exact ⟨hdot, (identifier_chars_inj (List.cons.inj (List.cons.inj h).2).1).symm⟩
  · cases h
  · cases (List.cons.inj h).2
  · cases (List.cons.inj (List.cons.inj h).2).2

/-! ## Places -/

theorem below_of_isDots {s : String} (h : IsDots s) (folder : List (List Char)) :
    below folder s = through folder s ++ [[]] :=
  congrArg (through folder s ++ ·) (if_pos h)

theorem below_of_not_isDots {s : String} (h : ¬ IsDots s) (folder : List (List Char)) :
    below folder s = folder ++ [(escape s).toList] := by
  obtain ⟨hdot, hdotdot⟩ := not_or.mp h
  have hend : below folder s = through folder s ++ [] := congrArg (through folder s ++ ·) (if_neg h)
  rw [hend, List.append_nil, through, if_neg hdotdot, if_neg hdot]

theorem through_dot (folder : List (List Char)) : through folder "." = folder := rfl

theorem through_dotdot (folder : List (List Char)) : through folder ".." = folder.dropLast := rfl

/-- Two places are one if their folders and their names are, or if both names are dotted and lead to
one folder. -/
theorem below_inj {folder folder' : List (List Char)} {s t : String} (hs : s ≠ "") (ht : t ≠ "")
    (h : below folder s = below folder' t) :
    (s = t ∧ folder = folder') ∨
      (IsDots s ∧ IsDots t ∧ through folder s = through folder' t) := by
  have hne {u : String} (hu : u ≠ "") : (escape u).toList ≠ [] := mt Web.escape_eq_nil.mp hu
  have hlast {xs ys : List (List Char)} {x y : List Char} (h : xs ++ [x] = ys ++ [y]) :
      xs = ys ∧ x = y := by
    rw [← List.concat_eq_append, ← List.concat_eq_append, List.concat_inj] at h
    exact h
  by_cases hsd : IsDots s <;> by_cases htd : IsDots t
  · rw [below_of_isDots hsd, below_of_isDots htd] at h
    exact .inr ⟨hsd, htd, List.append_cancel_right h⟩
  · rw [below_of_isDots hsd, below_of_not_isDots htd] at h
    exact absurd (hlast h).2.symm (hne ht)
  · rw [below_of_not_isDots hsd, below_of_isDots htd] at h
    exact absurd (hlast h).2 (hne hs)
  · rw [below_of_not_isDots hsd, below_of_not_isDots htd] at h
    obtain ⟨hfolder, hname⟩ := hlast h
    exact .inl ⟨identifier_chars_inj hname, hfolder⟩

/-- Nothing in a folder stands where the resources of a kind do. -/
theorem kindChars_ne_below {folder : List (List Char)} (hne : folder ≠ [])
    (hlogging : folder ≠ [Part.chars (.word .logging)]) {s : String} (k : VersionedKind) :
    kindChars k ≠ below folder s := by
  intro h
  by_cases hdots : IsDots s
  · rw [below_of_isDots hdots] at h
    exact nil_not_mem_kindChars k (by rw [h]; exact List.mem_append_right _ List.mem_cons_self)
  · rw [below_of_not_isDots hdots] at h
    exact dropLast_kindChars_ne hne hlogging k (by rw [h, List.dropLast_concat])

theorem item_eq_or_mistaken {k k' : VersionedKind} {s t : String} (hs : s ≠ "") (ht : t ≠ "")
    (h : below (kindChars k) s = below (kindChars k') t) :
    Subject.item k s = .item k' t ∨ Mistaken (.item k s) (.item k' t) := by
  have hfolder (j : VersionedKind) {j' : VersionedKind} :
      (kindChars j).dropLast ≠ kindChars j' :=
    dropLast_kindChars_ne (kindChars_ne_nil j') (kindChars_ne_logging j') j
  rcases below_inj hs ht h with ⟨rfl, hkinds⟩ | ⟨rfl | rfl, rfl | rfl, hthrough⟩
  · rw [kindChars_inj hkinds]
    exact .inl rfl
  · rw [kindChars_inj hthrough]
    exact .inl rfl
  · exact absurd hthrough.symm (hfolder k')
  · exact absurd hthrough (hfolder k)
  · by_cases hkinds : k = k'
    · rw [hkinds]
      exact .inl rfl
    · exact .inr (.sibling hkinds (dropLast_kindWords_of_kindChars hthrough))

theorem link_mistaken_of_item {k : VersionedKind} {s d b : String} (hs : s ≠ "") (hb : b ≠ "")
    (h : below (kindChars k) s = below (linkFolder d) b) : Mistaken (.link d b) (.item k s) := by
  rcases below_inj hs hb h with ⟨rfl, hfolder⟩ | ⟨rfl | rfl, rfl | rfl, hthrough⟩
  · obtain ⟨rfl, rfl⟩ := kindChars_eq_linkFolder hfolder
    exact .backendItem s
  · obtain ⟨rfl, rfl⟩ := kindChars_eq_linkFolder hthrough
    exact .backendItem "."
  · rw [through_dot, through_dotdot, dropLast_linkFolder] at hthrough
    obtain ⟨rfl, rfl⟩ := kindChars_eq_through hthrough
    exact .directorFolder
  · exact absurd hthrough
      (dropLast_kindChars_ne (linkFolder_ne_nil d) (linkFolder_ne_logging d) k)
  · rw [through_dotdot, through_dotdot, dropLast_linkFolder] at hthrough
    obtain ⟨hword, rfl⟩ := dropLast_kindChars_eq_through hthrough
    exact .versionFolder hword

theorem link_eq_or_mistaken {d d' b b' : String} (hb : b ≠ "") (hb' : b' ≠ "")
    (h : below (linkFolder d) b = below (linkFolder d') b') :
    Subject.link d b = .link d' b' ∨ Mistaken (.link d b) (.link d' b') ∨
      Mistaken (.link d' b') (.link d b) := by
  rcases below_inj hb hb' h with ⟨rfl, hfolder⟩ | ⟨rfl | rfl, rfl | rfl, hthrough⟩
  · rw [linkFolder_inj hfolder]
    exact .inl rfl
  · rw [linkFolder_inj hthrough]
    exact .inl rfl
  · rw [through_dot, through_dotdot, dropLast_linkFolder] at hthrough
    obtain ⟨rfl, rfl⟩ := linkFolder_eq_through hthrough
    exact .inr (.inr .backendFolder)
  · rw [through_dot, through_dotdot, dropLast_linkFolder] at hthrough
    obtain ⟨rfl, rfl⟩ := linkFolder_eq_through hthrough.symm
    exact .inr (.inl .backendFolder)
  · rw [through_dotdot, through_dotdot, dropLast_linkFolder, dropLast_linkFolder] at hthrough
    rw [through_director_inj hthrough]
    exact .inl rfl

theorem Mistaken.place_eq {a b : Subject} (h : Mistaken a b) : a.place = b.place := by
  cases h with
  | sibling hne h =>
    rw [Subject.place, Subject.place, below_of_isDots (.inr rfl), below_of_isDots (.inr rfl),
      through_dotdot, through_dotdot, dropLast_kindChars, dropLast_kindChars, h]
  | backendItem backend => rfl
  | versionFolder h =>
    rw [Subject.place, Subject.place, below_of_isDots (.inr rfl), below_of_isDots (.inr rfl),
      through_dotdot, through_dotdot, dropLast_linkFolder, through_dotdot, dropLast_kindChars,
      dropLast_kindChars, h]
    rfl
  | directorFolder =>
    rw [Subject.place, Subject.place, below_of_isDots (.inr rfl), below_of_isDots (.inl rfl),
      through_dotdot, dropLast_linkFolder]
  | backendFolder =>
    rw [Subject.place, Subject.place, below_of_isDots (.inr rfl), below_of_isDots (.inl rfl),
      through_dotdot, dropLast_linkFolder, through_dot]
    decide

/-- Subjects that stand in one place are one, or one of them is mistaken for the other. -/
theorem Subject.place_eq_iff {a b : Subject} (ha : a.IsNamed) (hb : b.IsNamed) :
    a.place = b.place ↔ a = b ∨ Mistaken a b ∨ Mistaken b a := by
  constructor
  · intro h
    cases a with
    | collection k =>
      cases b with
      | collection k' => exact .inl (congrArg _ (kindChars_inj h))
      | item k' s =>
        exact absurd h (kindChars_ne_below (kindChars_ne_nil k') (kindChars_ne_logging k') k)
      | link d backend =>
        exact absurd h (kindChars_ne_below (linkFolder_ne_nil d) (linkFolder_ne_logging d) k)
    | item k s =>
      cases b with
      | collection k' =>
        exact absurd h.symm (kindChars_ne_below (kindChars_ne_nil k) (kindChars_ne_logging k) k')
      | item k' t => exact (item_eq_or_mistaken ha hb h).imp_right .inl
      | link d backend => exact .inr (.inr (link_mistaken_of_item ha hb.2 h))
    | link d backend =>
      cases b with
      | collection k' =>
        exact absurd h.symm (kindChars_ne_below (linkFolder_ne_nil d) (linkFolder_ne_logging d) k')
      | item k' t => exact .inr (.inl (link_mistaken_of_item hb ha.2 h.symm))
      | link d' backend' => exact link_eq_or_mistaken ha.2 hb.2 h
  · rintro (rfl | h | h)
    · rfl
    · exact h.place_eq
    · exact h.place_eq.symm

end EdgeConsole.Api
