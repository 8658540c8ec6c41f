import EdgeConsole.Proofs.Web.Escape
import EdgeConsole.Web.Url.Basic

/-!
# Segments of a path

A path is a list of segments, each written after a slash (`joined`). Reading the text of a path
gives the segments back, and then resolves the dotted ones on the way from the left to the right.

`resolve` treats the last segment apart, since a path that ends in a dotted segment ends in a slash.
`resolve_eq` separates the two concerns: the segments that stay are a fold of `enter`, which knows
nothing of the end, and one empty segment is added when the last is dotted. Everything about
resolution below is said of the fold.

The escape of an identifier is a plain segment, one that resolution leaves alone, unless the
identifier is `.` or `..` (`isPlain_escape`).
-/

namespace EdgeConsole.Web.Url

open Text (splitWhere)

theorem forall_eq_false_of_any {p : Char → Bool} {cs : List Char} (h : cs.any p = false) :
    ∀ c ∈ cs, p c = false :=
  fun c hc => Bool.eq_false_iff.mpr (List.any_eq_false.mp h c hc)

/-! ## The text of a list of segments -/

/-- The text of segments, each after a slash. -/
def joined (segments : List (List Char)) : List Char :=
  segments.flatMap ('/' :: ·)

@[simp] theorem joined_nil : joined [] = [] := rfl

@[simp] theorem joined_cons (s : List Char) (rest : List (List Char)) :
    joined (s :: rest) = '/' :: (s ++ joined rest) := rfl

theorem joined_append (xs ys : List (List Char)) :
    joined (xs ++ ys) = joined xs ++ joined ys :=
  List.flatMap_append

theorem joined_replicate_nil (n : Nat) :
    joined (List.replicate n []) = List.replicate n '/' := by
  induction n with
  | zero => rfl
  | succ n ih => rw [List.replicate_succ, joined_cons, ih, List.replicate_succ, List.nil_append]

/-- Text without separators goes on with the last part. -/
theorem splitWhere_append_of_none {p : Char → Bool} {more : List Char}
    (h : ∀ c ∈ more, p c = false) (cs : List Char) :
    ∃ init last, splitWhere p cs = init ++ [last] ∧
      splitWhere p (cs ++ more) = init ++ [last ++ more] := by
  induction cs with
  | nil => exact ⟨[], [], rfl, Text.splitWhere_of_none h⟩
  | cons c cs ih =>
    obtain ⟨init, last, hcs, hmore⟩ := ih
    rw [List.cons_append, splitWhere, splitWhere, hcs, hmore]
    by_cases hc : p c = true
    · rw [if_pos hc, if_pos hc]
      exact ⟨[] :: init, last, rfl, rfl⟩
    · rw [if_neg hc, if_neg hc]
      cases init with
      | nil => exact ⟨[], c :: last, rfl, rfl⟩
      | cons s init => exact ⟨(c :: s) :: init, last, rfl, rfl⟩

/-- The segments of a text are read back from it. -/
theorem splitWhere_joined {p : Char → Bool} (hslash : p '/' = true) :
    ∀ {s : List Char} {rest : List (List Char)},
      (∀ t ∈ s :: rest, ∀ c ∈ t, p c = false) → splitWhere p (s ++ joined rest) = s :: rest
  | s, [], h => by
    rw [joined_nil, List.append_nil]
    exact Text.splitWhere_of_none (h s List.mem_cons_self)
  | s, t :: rest, h => by
    have ih : splitWhere p (t ++ joined rest) = t :: rest :=
      splitWhere_joined hslash fun u hu => h u (List.mem_cons_of_mem _ hu)
    rw [joined_cons, Text.splitWhere_append (h s List.mem_cons_self) hslash, ih]

/-- Segments without slashes are determined by their text. -/
theorem joined_inj {xs ys : List (List Char)} (hx : ∀ s ∈ xs, '/' ∉ s) (hy : ∀ s ∈ ys, '/' ∉ s)
    (h : joined xs = joined ys) : xs = ys := by
  have free {zs : List (List Char)} (hz : ∀ s ∈ zs, '/' ∉ s) :
      ∀ s ∈ zs, ∀ c ∈ s, (c == '/') = false := by
    intro s hs c hc
    rw [beq_eq_false_iff_ne]
    rintro rfl
    exact hz s hs hc
  cases xs with
  | nil =>
    cases ys with
    | nil => rfl
    | cons t ys => simp only [joined_nil, joined_cons, reduceCtorEq] at h
  | cons s xs =>
    cases ys with
    | nil => simp only [joined_nil, joined_cons, reduceCtorEq] at h
    | cons t ys =>
      rw [joined_cons, joined_cons, List.cons.injEq] at h
      rw [← splitWhere_joined (p := (· == '/')) rfl (free hx),
        ← splitWhere_joined (p := (· == '/')) rfl (free hy), h.2]

/-! ## Dotted segments -/

/-- The segment means the one it stands in, or the one above. -/
def isDotted (s : List Char) : Bool := isDot s || isDotDot s

/-- The segments that stay when one more is met, nearest first. -/
def enter (above : List (List Char)) (s : List Char) : List (List Char) :=
  if isDotDot s then leave above
  else if isDot s then above
  else percentEncode isPathChar s :: above

/-- The empty segment in which a path ends that ends in a dotted one. -/
def closing (segments : List (List Char)) : List (List Char) :=
  if segments.getLast?.any isDotted then [[]] else []

theorem closing_cons_cons (s t : List Char) (rest : List (List Char)) :
    closing (s :: t :: rest) = closing (t :: rest) := by
  simp only [closing, List.getLast?_cons_cons]

/-- Resolution is a fold, and a last segment that is dotted leaves an empty one behind. -/
theorem resolve_eq (above segments : List (List Char)) :
    resolve above segments = (segments.foldl enter above).reverse ++ closing segments := by
  induction segments generalizing above with
  | nil => simp only [resolve, List.foldl_nil, closing, List.getLast?_nil, Option.any_none,
      Bool.false_eq_true, if_false, List.append_nil]
  | cons s rest ih =>
    have hlast : closing [s] = if isDotted s then [[]] else [] := rfl
    rw [resolve, List.foldl_cons]
    cases rest with
    | nil =>
      rw [hlast]
      cases hdd : isDotDot s <;> cases hd : isDot s <;>
        simp [enter, isDotted, hdd, hd, resolve]
    | cons t rest =>
      rw [closing_cons_cons, ← ih]
      cases hdd : isDotDot s <;> cases hd : isDot s <;> simp [enter, hdd, hd]

theorem closing_append {segments : List (List Char)} (hne : segments ≠ [])
    (base : List (List Char)) : closing (base ++ segments) = closing segments := by
  rw [closing, closing, List.getLast?_append, List.getLast?_eq_some_getLast hne, Option.some_or]

/-- The segments that stay of those that are written. -/
def settled (segments : List (List Char)) : List (List Char) := (segments.foldl enter []).reverse

/-- What stands in front of segments is resolved before them. -/
theorem resolve_append {segments : List (List Char)} (hne : segments ≠ [])
    (base : List (List Char)) :
    resolve [] (base ++ segments) = resolve (settled base).reverse segments := by
  rw [resolve_eq, resolve_eq, List.foldl_append, closing_append hne, settled, List.reverse_reverse]

/-- A path never resolves to nothing. -/
theorem resolve_ne_nil {segments : List (List Char)} (hne : segments ≠ [])
    (above : List (List Char)) : resolve above segments ≠ [] := by
  rcases List.eq_nil_or_concat segments with rfl | ⟨init, s, rfl⟩
  · exact absurd rfl hne
  · rw [List.concat_eq_append, resolve_eq, List.foldl_append, closing_append (List.cons_ne_nil _ _)]
    have hclosing : closing [s] = if isDotted s then [[]] else [] := rfl
    rw [hclosing]
    by_cases hdotted : isDotted s = true
    · rw [if_pos hdotted]
      exact List.append_ne_nil_of_right_ne_nil _ (List.cons_ne_nil _ _)
    · rw [Bool.not_eq_true, isDotted, Bool.or_eq_false_iff] at hdotted
      rw [List.foldl_cons, List.foldl_nil, enter, hdotted.1, hdotted.2]
      simp

/-- A dotted segment is made of points, or of what spells them. -/
theorem toLower_mem_of_isDotted {s : List Char} (h : isDotted s = true) {c : Char} (hc : c ∈ s) :
    c.toLower ∈ ['.', '%', '2', 'e'] := by
  suffices hall : s.map Char.toLower ⊆ ['.', '%', '2', 'e'] from hall (List.mem_map_of_mem hc)
  simp only [isDotted, isDot, isDotDot, Bool.or_eq_true, beq_iff_eq] at h
  rcases h with (rfl | h) | ((h | h) | h) | h
  · simp
  all_goals
    rw [h]
    simp

/-! ## Plain segments -/

/-- A segment that is written as it is and ends where it should. -/
structure IsSegment (s : List Char) : Prop where
  pathChars : ∀ c ∈ s, isPathChar c = true
  slashFree : ∀ c ∈ s, isSlash .web c = false

/-- A segment that resolution leaves as it is. -/
structure IsPlain (s : List Char) : Prop extends IsSegment s where
  notDot : isDot s = false
  notDotDot : isDotDot s = false

theorem IsSegment.not_mem_slash {s : List Char} (h : IsSegment s) : '/' ∉ s := fun hmem =>
  absurd (h.slashFree '/' hmem) (by decide)

/-- Characters that are all kept are not encoded. -/
theorem percentEncode_eq_self {kept : Char → Bool} {cs : List Char}
    (h : ∀ c ∈ cs, kept c = true) : percentEncode kept cs = cs := by
  induction cs with
  | nil => rfl
  | cons c cs ih =>
    rw [percentEncode, List.flatMap_cons, if_pos (h c List.mem_cons_self), ← percentEncode,
      ih fun d hd => h d (List.mem_cons_of_mem _ hd), List.singleton_append]

theorem enter_of_isPlain {s : List Char} (h : IsPlain s) (above : List (List Char)) :
    enter above s = s :: above := by
  simp only [enter, h.notDotDot, h.notDot, percentEncode_eq_self h.pathChars, Bool.false_eq_true,
    if_false]

/-- Plain segments are entered one after the other. -/
theorem foldl_enter_of_isPlain {segments : List (List Char)} (h : ∀ s ∈ segments, IsPlain s)
    (above : List (List Char)) : segments.foldl enter above = segments.reverse ++ above := by
  induction segments generalizing above with
  | nil => rfl
  | cons s rest ih =>
    rw [List.foldl_cons, enter_of_isPlain (h s List.mem_cons_self),
      ih fun t ht => h t (List.mem_cons_of_mem _ ht), List.reverse_cons, List.append_assoc,
      List.singleton_append]

theorem isPlain_nil : IsPlain [] where
  pathChars := by simp
  slashFree := by simp
  notDot := rfl
  notDotDot := rfl

theorem closing_of_isPlain {segments : List (List Char)} (h : ∀ s ∈ segments, IsPlain s) :
    closing segments = [] := by
  rw [closing]
  cases hlast : segments.getLast? with
  | none => rfl
  | some s =>
    have hs := h s (List.mem_of_getLast? hlast)
    simp only [Option.any_some, isDotted, hs.notDot, hs.notDotDot, Bool.or_self,
      Bool.false_eq_true, if_false]

/-- Plain segments are put behind what stays of those in front of them. -/
theorem resolve_append_of_isPlain {segments : List (List Char)} (hne : segments ≠ [])
    (h : ∀ s ∈ segments, IsPlain s) (base : List (List Char)) :
    resolve [] (base ++ segments) = settled base ++ segments := by
  rw [resolve_append hne, resolve_eq, foldl_enter_of_isPlain h, closing_of_isPlain h,
    List.append_nil, List.reverse_append, List.reverse_reverse, List.reverse_reverse]

/-! ## Escapes as segments -/

/-- A character of an escape is none that a URL gives a meaning to. -/
theorem isPathChar_of_isEscapeChar {c : Char} (h : isEscapeChar c = true) :
    isPathChar c = true := by
  have hmarks : ∀ d ∈ "\"#<>?\x60\x7b\x7d".toList, isEscapeChar d = false :=
    forall_eq_false_of_any (by decide)
  rw [isPathChar]
  have hrange : 0x20 < c.toNat ∧ c.toNat < 0x7F := by
    rw [isEscapeChar_iff, isUnreserved_iff] at h
    omega
  simp only [hrange, decide_true, Bool.true_and, Bool.not_eq_true', List.contains_eq_mem,
    decide_eq_false_iff_not]
  intro hc
  rw [hmarks c hc] at h
  exact Bool.noConfusion h

/-- Every character of a segment is written as a path has it. -/
theorem isPathChar_of_mem_enter {above : List (List Char)}
    (h : ∀ s ∈ above, ∀ c ∈ s, isPathChar c = true) (segment : List Char) :
    ∀ s ∈ enter above segment, ∀ c ∈ s, isPathChar c = true := by
  rw [enter]
  split
  · intro s hs
    cases above with
    | nil => cases hs
    | cons nearest above =>
      rw [leave] at hs
      split at hs
      · exact h s hs
      · exact h s (List.mem_cons_of_mem _ hs)
  · split
    · exact h
    · rw [List.forall_mem_cons]
      exact ⟨fun c hc => (mem_percentEncode hc).elim And.left isPathChar_of_isEscapeChar, h⟩

theorem isPathChar_of_mem_resolve (segments : List (List Char)) :
    ∀ s ∈ resolve [] segments, ∀ c ∈ s, isPathChar c = true := by
  have hentered (above : List (List Char)) (h : ∀ s ∈ above, ∀ c ∈ s, isPathChar c = true) :
      ∀ s ∈ segments.foldl enter above, ∀ c ∈ s, isPathChar c = true := by
    induction segments generalizing above with
    | nil => exact h
    | cons segment rest ih => exact ih _ (isPathChar_of_mem_enter h segment)
  intro s hs
  rw [resolve_eq, List.mem_append, List.mem_reverse] at hs
  rcases hs with hs | hs
  · exact hentered [] nofun s hs
  · rw [closing] at hs
    split at hs
    · rw [List.mem_singleton.mp hs]
      nofun
    · cases hs

theorem isQueryChar_of_isEscapeChar {c : Char} (h : isEscapeChar c = true) :
    isQueryChar .web c = true := by
  have hmarks : ∀ d ∈ '\'' :: "\"#<>".toList, isEscapeChar d = false :=
    forall_eq_false_of_any (by decide)
  have hnot : ∀ d ∈ '\'' :: "\"#<>".toList, c ≠ d := by
    rintro d hd rfl
    rw [hmarks c hd] at h
    exact Bool.noConfusion h
  have hrange : 0x20 < c.toNat ∧ c.toNat < 0x7F := by
    rw [isEscapeChar_iff, isUnreserved_iff] at h
    omega
  have hfree : "\"#<>".toList.contains c = false := by
    rw [List.contains_eq_mem, decide_eq_false_iff_not]
    exact fun hc => hnot c (List.mem_cons_of_mem _ hc) rfl
  have hquote : (c == '\'') = false := beq_eq_false_iff_ne.mpr (hnot _ List.mem_cons_self)
  simp only [isQueryChar, hrange, decide_true, hfree, hquote, Bool.and_false, Bool.not_false,
    Bool.and_self]

theorem isSlash_of_isEscapeChar {c : Char} (h : isEscapeChar c = true) :
    isSlash .web c = false := by
  refine Bool.eq_false_iff.mpr fun hslash => ?_
  simp only [isSlash, Bool.or_eq_true, Bool.and_eq_true, beq_iff_eq] at hslash
  rcases hslash with rfl | ⟨-, rfl⟩ <;> exact absurd h (by decide)

/-- A character outside the small letters comes from itself alone. -/
theorem eq_of_toLower {c d : Char} (h : c.toLower = d) (hd : d.toNat < 97) : c = d := by
  rcases eq_or_of_toLower h with h | ⟨hlow, -, hsum⟩
  · exact h
  · omega

/-- The two digits that stand for a point read as one. -/
theorem hexDigit?_of_toLower_eq_e {c : Char} (h : c.toLower = 'e') : hexDigit? c = some 14 := by
  rcases eq_or_of_toLower h with rfl | ⟨-, -, hsum⟩
  · rfl
  · have hE : c = 'E' := by
      apply Char.toNat_inj.mp
      have : ('e' : Char).toNat = 101 := rfl
      have : ('E' : Char).toNat = 69 := rfl
      omega
    rw [hE]
    rfl

/-- A written point, spelled with or without a percent escape, reads as the byte of a point. -/
theorem percentDecode_of_lower_point {a b c : Char} (ha : a.toLower = '%') (hb : b.toLower = '2')
    (hc : c.toLower = 'e') (rest : List Char) :
    percentDecode (a :: b :: c :: rest) = 0x2E :: percentDecode rest := by
  obtain rfl := eq_of_toLower ha (by decide)
  obtain rfl := eq_of_toLower hb (by decide)
  have h2 : hexDigit? '2' = some 2 := rfl
  rw [percentDecode, h2, hexDigit?_of_toLower_eq_e hc]
  rfl

theorem percentDecode_point {a : Char} (ha : a.toLower = '.') (rest : List Char) :
    percentDecode (a :: rest) = 0x2E :: percentDecode rest := by
  obtain rfl := eq_of_toLower ha (by decide)
  exact percentDecode_cons_of_ne (by decide) rest

/-- However a dotted segment is spelled, it reads as one point. -/
theorem percentDecode_of_isDot {s : List Char} (h : isDot s = true) : percentDecode s = [0x2E] := by
  simp only [isDot, Bool.or_eq_true, beq_iff_eq, List.map_eq_cons_iff, List.map_eq_nil_iff] at h
  rcases h with rfl | ⟨a, _, rfl, ha, b, _, rfl, hb, c, _, rfl, hc, rfl⟩
  · rfl
  · rw [percentDecode_of_lower_point ha hb hc, percentDecode]

/-- However a segment that leads up is spelled, it reads as two points. -/
theorem percentDecode_of_isDotDot {s : List Char} (h : isDotDot s = true) :
    percentDecode s = [0x2E, 0x2E] := by
  simp only [isDotDot, Bool.or_eq_true, beq_iff_eq, List.map_eq_cons_iff, List.map_eq_nil_iff] at h
  rcases h with ((⟨a, _, rfl, ha, b, _, rfl, hb, rfl⟩ |
      ⟨a, _, rfl, ha, b, _, rfl, hb, c, _, rfl, hc, d, _, rfl, hd, rfl⟩) |
      ⟨a, _, rfl, ha, b, _, rfl, hb, c, _, rfl, hc, d, _, rfl, hd, rfl⟩) |
      ⟨a, _, rfl, ha, b, _, rfl, hb, c, _, rfl, hc, d, _, rfl, hd, e, _, rfl, he, f, _, rfl, hf,
        rfl⟩
  · rw [percentDecode_point ha, percentDecode_point hb, percentDecode]
  · rw [percentDecode_point ha, percentDecode_of_lower_point hb hc hd, percentDecode]
  · rw [percentDecode_of_lower_point ha hb hc, percentDecode_point hd, percentDecode]
  · rw [percentDecode_of_lower_point ha hb hc, percentDecode_of_lower_point hd he hf,
      percentDecode]

/-- The only identifier whose escape means the segment it stands in. -/
theorem isDot_escape {s : String} : isDot (escape s).toList = true ↔ s = "." := by
  refine ⟨fun h => eq_of_percentDecode_escape ?_, fun h => by rw [h]; rfl⟩
  rw [percentDecode_of_isDot h]
  rfl

/-- The only identifier whose escape means the segment above. -/
theorem isDotDot_escape {s : String} : isDotDot (escape s).toList = true ↔ s = ".." := by
  refine ⟨fun h => eq_of_percentDecode_escape ?_, fun h => by rw [h]; rfl⟩
  rw [percentDecode_of_isDotDot h]
  rfl

/-- Every identifier is a segment. -/
theorem isSegment_escape (s : String) : IsSegment (escape s).toList where
  pathChars _ hc := isPathChar_of_isEscapeChar (isEscapeChar_of_mem_escape hc)
  slashFree _ hc := isSlash_of_isEscapeChar (isEscapeChar_of_mem_escape hc)

/-- Every identifier but the two dotted ones is a plain segment. -/
theorem isPlain_escape {s : String} (hdot : s ≠ ".") (hdotdot : s ≠ "..") :
    IsPlain (escape s).toList where
  toIsSegment := isSegment_escape s
  notDot := Bool.eq_false_iff.mpr fun h => hdot (isDot_escape.mp h)
  notDotDot := Bool.eq_false_iff.mpr fun h => hdotdot (isDotDot_escape.mp h)

end EdgeConsole.Web.Url
