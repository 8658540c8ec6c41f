import EdgeConsole.Proofs.Api.Validation

/-!
# Where the addresses of resources lead

An address is resolved from the left to the right. An identifier adds its segment to the folder
that has been reached, unless it is dotted: then it stays in the folder, or leaves it (`through`).
At the end of an address it leaves a slash behind in these two cases (`below`).

The three forms of addresses below a version are brought to these two functions.
-/

namespace EdgeConsole.Api

open Resource (VersionedKind)
open Web (escape)
open Web.Url (IsPlain closing enter isDriveLetter leave resolve settled)

/-! ## Identifiers -/

/-- The folder that an identifier leads to. -/
def through (folder : List (List Char)) (s : String) : List (List Char) :=
  if s = ".." then folder.dropLast
  else if s = "." then folder
  else folder ++ [(escape s).toList]

/-- The path that ends in an identifier. -/
def below (folder : List (List Char)) (s : String) : List (List Char) :=
  through folder s ++ if s = "." ∨ s = ".." then [[]] else []

theorem through_cases (folder : List (List Char)) (s : String) :
    (s = ".." ∧ through folder s = folder.dropLast) ∨ (s = "." ∧ through folder s = folder) ∨
      (s ≠ "." ∧ s ≠ ".." ∧ through folder s = folder ++ [(escape s).toList]) := by
  rw [through]
  by_cases hdotdot : s = ".."
  · exact .inl ⟨hdotdot, if_pos hdotdot⟩
  · rw [if_neg hdotdot]
    by_cases hdot : s = "."
    · exact .inr (.inl ⟨hdot, if_pos hdot⟩)
    · exact .inr (.inr ⟨hdot, hdotdot, if_neg hdot⟩)

theorem through_append {folder : List (List Char)} (hne : folder ≠ []) (base : List (List Char))
    (s : String) : through (base ++ folder) s = base ++ through folder s := by
  rw [through, through]
  split
  · rw [List.dropLast_append_of_ne_nil hne]
  · split
    · rfl
    · rw [List.append_assoc]

theorem below_append {folder : List (List Char)} (hne : folder ≠ []) (base : List (List Char))
    (s : String) : below (base ++ folder) s = base ++ below folder s := by
  rw [below, below, through_append hne, List.append_assoc]

/-! ## Segments that stay -/

/-- No part of an address is a drive letter, which `..` would not leave. -/
theorem isDriveLetter_chars (p : Part) : isDriveLetter p.chars = false := by
  have hmark {c : Char} (hc : c ∈ p.chars) : c ≠ ':' ∧ c ≠ '|' := by
    have hescape := Part.isEscapeChar_of_mem_chars hc
    constructor <;> rintro rfl <;> exact absurd hescape (by decide)
  unfold isDriveLetter
  split
  · next a b hchars =>
    obtain ⟨hcolon, hbar⟩ := hmark (c := b) (by rw [hchars]; simp)
    rw [beq_eq_false_iff_ne.mpr hcolon, beq_eq_false_iff_ne.mpr hbar, Bool.or_self, Bool.and_false]
  · rfl

theorem leave_eq_tail {above : List (List Char)} (h : ∀ t ∈ above, isDriveLetter t = false) :
    leave above = above.tail := by
  cases above with
  | nil => rfl
  | cons t above =>
    rw [leave, h t List.mem_cons_self]
    rfl

theorem mem_of_mem_leave {above : List (List Char)} {t : List Char} (h : t ∈ leave above) :
    t ∈ above := by
  cases above with
  | nil => exact h
  | cons u above =>
    rw [leave] at h
    split at h
    · exact h
    · exact List.mem_cons_of_mem _ h

/-- What stays is among what is written. -/
theorem forall_mem_foldl_enter {P : List Char → Prop} (hP : ∀ p : Part, P p.chars)
    (parts : List Part) {above : List (List Char)} (habove : ∀ t ∈ above, P t) :
    ∀ t ∈ (parts.map Part.chars).foldl enter above, P t := by
  induction parts generalizing above with
  | nil => exact habove
  | cons p parts ih =>
    rw [List.map_cons, List.foldl_cons]
    apply ih
    rw [enter]
    split
    · exact fun t ht => habove t (mem_of_mem_leave ht)
    · split
      · exact habove
      · rw [Web.Url.percentEncode_eq_self p.isSegment_chars.pathChars]
        intro t ht
        rcases List.mem_cons.mp ht with rfl | ht
        · exact hP p
        · exact habove t ht

/-- No segment of a resolved address holds a slash. -/
theorem slash_not_mem_of_mem_resolve {parts : List Part} {t : List Char}
    (h : t ∈ resolve [] (parts.map Part.chars)) : '/' ∉ t := by
  rw [Web.Url.resolve_eq] at h
  rcases List.mem_append.mp h with h | h
  · exact forall_mem_foldl_enter (P := ('/' ∉ ·)) (fun p => p.isSegment_chars.not_mem_slash) parts
      (by simp) t (List.mem_reverse.mp h)
  · rw [closing] at h
    split at h
    · rw [List.mem_singleton.mp h]
      exact List.not_mem_nil
    · cases h

theorem settled_append {plain : List (List Char)} (h : ∀ t ∈ plain, IsPlain t)
    (segments : List (List Char)) : settled (segments ++ plain) = settled segments ++ plain := by
  rw [settled, List.foldl_append, Web.Url.foldl_enter_of_isPlain h, List.reverse_append,
    List.reverse_reverse, settled]

section Identifiers

variable (parts : List Part) (s : String)

theorem settled_concat_identifier :
    settled (parts.map Part.chars ++ [(escape s).toList]) =
      through (settled (parts.map Part.chars)) s := by
  have hleave := leave_eq_tail
    (forall_mem_foldl_enter isDriveLetter_chars parts (List.forall_mem_nil _))
  rw [settled, List.foldl_append, List.foldl_cons, List.foldl_nil, enter, settled, through]
  by_cases hdotdot : s = ".."
  · rw [if_pos (Web.Url.isDotDot_escape.mpr hdotdot), if_pos hdotdot, hleave,
      List.dropLast_reverse]
  · rw [if_neg (mt Web.Url.isDotDot_escape.mp hdotdot), if_neg hdotdot]
    by_cases hdot : s = "."
    · rw [if_pos (Web.Url.isDot_escape.mpr hdot), if_pos hdot]
    · rw [if_neg (mt Web.Url.isDot_escape.mp hdot), if_neg hdot, List.reverse_cons,
        Web.Url.percentEncode_eq_self (Web.Url.isSegment_escape s).pathChars]

theorem closing_identifier :
    closing [(escape s).toList] = if s = "." ∨ s = ".." then [[]] else [] := by
  have hdotted : Web.Url.isDotted (escape s).toList = true ↔ s = "." ∨ s = ".." := by
    rw [Web.Url.isDotted, Bool.or_eq_true, Web.Url.isDot_escape, Web.Url.isDotDot_escape]
  have hclosing : closing [(escape s).toList] =
      if Web.Url.isDotted (escape s).toList then [[]] else [] := rfl
  simp only [hclosing, hdotted]

/-- Where an address leads that ends in an identifier. -/
theorem resolve_concat_identifier :
    resolve [] (parts.map Part.chars ++ [(escape s).toList]) =
      below (settled (parts.map Part.chars)) s := by
  have hstays := settled_concat_identifier parts s
  rw [settled] at hstays
  rw [Web.Url.resolve_eq, hstays, Web.Url.closing_append (List.cons_ne_nil _ _),
    closing_identifier, below]

end Identifiers

/-! ## Resources -/

/-- The segments of the path of a kind. -/
def kindChars (k : VersionedKind) : List (List Char) := (kindParts k).map Part.chars

theorem isPlain_of_mem_kindChars {k : VersionedKind} {t : List Char} (h : t ∈ kindChars k) :
    IsPlain t := by
  obtain ⟨p, hp, rfl⟩ := List.mem_map.mp h
  obtain ⟨w, -, rfl⟩ := List.mem_map.mp hp
  exact Part.isPlain_word w

theorem kindChars_ne_nil (k : VersionedKind) : kindChars k ≠ [] := by
  cases k <;> exact List.cons_ne_nil _ _

/-- The folder of a version, as far as it is reached. -/
def VersionRef.base (r : VersionRef) : List (List Char) :=
  through [Part.chars (.word .service)] r.service ++
    [Part.chars (.word .version), Part.chars (.number r.version)]

theorem VersionRef.settled_parts (r : VersionRef) : settled (r.parts.map Part.chars) = r.base := by
  have hparts : r.parts.map Part.chars =
      ([.word .service].map Part.chars ++ [(escape r.service).toList]) ++
        [Part.chars (.word .version), Part.chars (.number r.version)] := rfl
  have hservice : settled ([.word .service].map Part.chars) = [Part.chars (.word .service)] :=
    settled_append (fun t ht => List.mem_singleton.mp ht ▸ Part.isPlain_word .service) []
  rw [hparts, settled_append, settled_concat_identifier, hservice, base]
  intro t ht
  rcases List.mem_cons.mp ht with rfl | ht
  · exact Part.isPlain_word .version
  · rw [List.mem_singleton.mp ht]
    exact Part.isPlain_number r.version

theorem VersionRef.settled_folder (r : VersionRef) (k : VersionedKind) :
    settled ((r.folder k).map Part.chars) = r.base ++ kindChars k := by
  rw [folder, List.map_append, ← kindChars, settled_append fun t ht => isPlain_of_mem_kindChars ht,
    r.settled_parts]

/-- Where the address of the resources of a kind leads. -/
theorem VersionRef.resolve_folder (r : VersionRef) (k : VersionedKind) :
    resolve [] ((r.folder k).map Part.chars) = r.base ++ kindChars k := by
  rw [folder, List.map_append, ← kindChars, Web.Url.resolve_append_of_isPlain (kindChars_ne_nil k)
    fun t ht => isPlain_of_mem_kindChars ht, r.settled_parts]

/-- Where the address of a resource leads. -/
theorem NameRef.resolve_parts (r : NameRef) (k : VersionedKind) :
    resolve [] ((r.parts k).map Part.chars) =
      r.toVersionRef.base ++ below (kindChars k) r.name := by
  rw [parts, List.map_append, ← below_append (kindChars_ne_nil k), ← VersionRef.settled_folder]
  exact resolve_concat_identifier _ _

/-- The folder of the links of a director, as far as it is reached. -/
def linkFolder (director : String) : List (List Char) :=
  through (kindChars .director) director ++ [Part.chars (.word .backend)]

/-- Where the address of a link leads. -/
theorem LinkRef.resolve_parts (r : LinkRef) :
    resolve [] (r.parts.map Part.chars) =
      r.toVersionRef.base ++ below (linkFolder r.director) r.backend := by
  let folder := (r.toVersionRef.folder .director ++ [.identifier r.director]) ++ [.word .backend]
  have hparts : r.parts.map Part.chars = folder.map Part.chars ++ [(escape r.backend).toList] := by
    rw [LinkRef.parts, NameRef.parts]
    simp only [folder, List.map_append, List.append_assoc]
    rfl
  have hfolder : settled (folder.map Part.chars) = r.toVersionRef.base ++ linkFolder r.director := by
    have hitem := settled_concat_identifier (r.toVersionRef.folder .director) r.director
    have hword : ∀ t ∈ [Part.chars (.word .backend)], IsPlain t := by
      simpa using Part.isPlain_word .backend
    rw [VersionRef.settled_folder, through_append (kindChars_ne_nil _)] at hitem
    rw [linkFolder, ← List.append_assoc, ← hitem, ← settled_append hword, List.map_append,
      List.map_append]
    rfl
  rw [hparts, resolve_concat_identifier, hfolder, below_append]
  exact List.append_ne_nil_of_right_ne_nil _ (List.cons_ne_nil _ _)

end EdgeConsole.Api
