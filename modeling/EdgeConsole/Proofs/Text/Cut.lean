import EdgeConsole.Text.Cut

/-!
# The longest start within a limit

A text can be cut where one of its starts ends (`isBoundary_iff_exists`), and the search for a place
finds the last one within the limit (`lastBoundary?_eq_some_iff`). What stands in front of it is
the longest start that the limit allows (`exists_isLongestStart`). A character has at most
four bytes, so no more than three bytes of the limit are left (`exists_isBoundary`).
-/

namespace EdgeConsole.Text

/-! ## Places to cut -/

theorem eq_append_of_toList_eq {s : String} {front back : List Char}
    (h : s.toList = front ++ back) : s = String.ofList front ++ String.ofList back := by
  rw [← String.ofList_append, ← h, String.ofList_toList]

theorem toList_start_iff {start s : String} :
    start.toList <+: s.toList ↔ ∃ rest, s = start ++ rest := by
  constructor
  · rintro ⟨rest, hrest⟩
    have hs := eq_append_of_toList_eq hrest.symm
    rw [String.ofList_toList] at hs
    exact ⟨_, hs⟩
  · rintro ⟨rest, rfl⟩
    exact ⟨rest.toList, String.toList_append.symm⟩

/-- A text can be cut where one of its starts ends. -/
theorem isBoundary_iff_exists {s : String} {n : Nat} :
    isBoundary s n = true ↔ ∃ start rest, s = start ++ rest ∧ start.utf8ByteSize = n := by
  rw [isBoundary_iff, String.Pos.Raw.isValid_iff_exists_append]
  refine exists_congr fun start => exists_congr fun rest => and_congr_right fun _ => ?_
  rw [String.Pos.Raw.ext_iff, String.byteIdx_rawEndPos, eq_comm]

/-- Cutting a text gives the start that ends there. -/
theorem firstBytes?_append (start rest : String) :
    firstBytes? (start ++ rest) start.utf8ByteSize = some start := by
  have hcut : isBoundary (start ++ rest) start.utf8ByteSize = true :=
    isBoundary_iff_exists.mpr ⟨start, rest, rfl, rfl⟩
  let p : (start ++ rest).Pos := ⟨⟨start.utf8ByteSize⟩, isBoundary_iff.mp hcut⟩
  have hsplits : p.Splits start rest := ⟨rfl, rfl⟩
  rw [firstBytes?, dif_pos hcut]
  exact congrArg some hsplits.copy_sliceTo_eq

theorem firstBytes?_eq_some_iff {s start : String} {n : Nat} :
    firstBytes? s n = some start ↔ start.toList <+: s.toList ∧ start.utf8ByteSize = n := by
  rw [toList_start_iff]
  constructor
  · intro h
    have hcut : isBoundary s n = true := by
      rw [← isSome_firstBytes?, h]
      rfl
    obtain ⟨found, rest, rfl, rfl⟩ := isBoundary_iff_exists.mp hcut
    obtain rfl := Option.some.inj ((firstBytes?_append found rest).symm.trans h)
    exact ⟨⟨rest, rfl⟩, rfl⟩
  · rintro ⟨⟨rest, rfl⟩, rfl⟩
    exact firstBytes?_append start rest

/-! ## The last place within a limit -/

theorem lastBoundary?_eq_some_iff {s : String} {n cut : Nat} :
    lastBoundary? s n = some cut ↔
      cut ≤ n ∧ isBoundary s cut = true ∧ ∀ m, m ≤ n → isBoundary s m = true → m ≤ cut := by
  induction n with
  | zero =>
    rw [lastBoundary?, if_pos (isBoundary_zero s)]
    constructor
    · rintro ⟨⟩
      exact ⟨Nat.le_refl 0, isBoundary_zero s, fun m hm _ => hm⟩
    · rintro ⟨hcut, -, -⟩
      rw [Nat.le_zero.mp hcut]
  | succ n ih =>
    rw [lastBoundary?]
    split
    · next hlast =>
      constructor
      · rintro ⟨⟩
        exact ⟨Nat.le_refl _, hlast, fun m hm _ => hm⟩
      · rintro ⟨hcut, -, hgreatest⟩
        rw [Nat.le_antisymm hcut (hgreatest _ (Nat.le_refl _) hlast)]
    · next hlast =>
      rw [ih]
      constructor
      · rintro ⟨hcut, hboundary, hgreatest⟩
        refine ⟨Nat.le_succ_of_le hcut, hboundary, fun m hm hm' => ?_⟩
        rcases Nat.le_succ_iff.mp hm with hm | rfl
        · exact hgreatest m hm hm'
        · exact absurd hm' hlast
      · rintro ⟨hcut, hboundary, hgreatest⟩
        refine ⟨?_, hboundary, fun m hm => hgreatest m (Nat.le_succ_of_le hm)⟩
        rcases Nat.le_succ_iff.mp hcut with hcut | rfl
        · exact hcut
        · exact absurd hboundary hlast

theorem isBoundary_push_iff {s : String} {c : Char} {n : Nat} :
    isBoundary (s.push c) n = true ↔
      isBoundary s n = true ∨ n = s.utf8ByteSize + c.utf8Size := by
  rw [isBoundary_iff, isBoundary_iff, String.Pos.Raw.isValid_push, String.Pos.Raw.ext_iff]
  rfl

/-- Of any four places in a row within a text there is one at which it can be cut. -/
theorem exists_isBoundary {s : String} {n : Nat} (h : n ≤ s.utf8ByteSize) :
    ∃ m, m ≤ n ∧ n ≤ m + 3 ∧ isBoundary s m = true := by
  induction s using String.push_induction with
  | empty =>
    obtain rfl := Nat.le_zero.mp h
    exact ⟨0, Nat.le_refl 0, Nat.zero_le 3, isBoundary_zero ""⟩
  | push s c ih =>
    have hsize := c.utf8Size_le_four
    rw [String.utf8ByteSize_push] at h
    by_cases hin : n ≤ s.utf8ByteSize
    · obtain ⟨m, hm, hm', hcut⟩ := ih hin
      exact ⟨m, hm, hm', isBoundary_push_iff.mpr (.inl hcut)⟩
    · by_cases hend : n = s.utf8ByteSize + c.utf8Size
      · exact ⟨n, Nat.le_refl n, Nat.le_add_right n 3, isBoundary_push_iff.mpr (.inr hend)⟩
      -- inside the last character the nearest place is in front of it
      · have hfront : isBoundary s s.utf8ByteSize = true :=
          isBoundary_iff_exists.mpr ⟨s, "", String.append_empty.symm, rfl⟩
        exact ⟨s.utf8ByteSize, by omega, by omega, isBoundary_push_iff.mpr (.inl hfront)⟩

/-! ## The longest start -/

/-- The longest start of a text that takes at most `limit` bytes. -/
structure IsLongestStart (limit : Nat) (s start : String) : Prop where
  isStart : start.toList <+: s.toList
  fits : start.utf8ByteSize ≤ limit
  longest : ∀ other : String, other.toList <+: s.toList → other.utf8ByteSize ≤ limit →
    other.toList <+: start.toList

/-- Of two starts of a text the one with fewer bytes is a start of the other. -/
theorem start_of_utf8ByteSize_le {s start other : String} (hstart : start.toList <+: s.toList)
    (hother : other.toList <+: s.toList) (h : other.utf8ByteSize ≤ start.utf8ByteSize) :
    other.toList <+: start.toList := by
  rcases List.prefix_or_prefix_of_prefix hother hstart with hfront | hfront
  · exact hfront
  · obtain ⟨rest, rfl⟩ := toList_start_iff.mp hfront
    rw [String.utf8ByteSize_append] at h
    have hempty : rest = "" := String.utf8ByteSize_eq_zero_iff.mp (by omega)
    have hsame : start ++ rest = start := by rw [hempty, String.append_empty]
    exact ⟨[], by rw [List.append_nil, hsame]⟩

/-- The search within a limit ends at most three bytes before it, and in front of the place that it
finds stands the longest start that the limit allows. -/
theorem exists_isLongestStart {s : String} {limit : Nat} (h : limit ≤ s.utf8ByteSize) :
    ∃ cut start, lastBoundary? s limit = some cut ∧ firstBytes? s cut = some start ∧
      IsLongestStart limit s start ∧ limit ≤ start.utf8ByteSize + 3 := by
  obtain ⟨cut, hcut⟩ := Option.isSome_iff_exists.mp (isSome_lastBoundary? s limit)
  obtain ⟨hlimit, hboundary, hgreatest⟩ := lastBoundary?_eq_some_iff.mp hcut
  obtain ⟨start, hstart⟩ :=
    Option.isSome_iff_exists.mp (isSome_firstBytes?.trans hboundary)
  obtain ⟨hfront, rfl⟩ := firstBytes?_eq_some_iff.mp hstart
  obtain ⟨near, hnear, hthree, hplace⟩ := exists_isBoundary h
  have hle := hgreatest near hnear hplace
  refine ⟨_, start, hcut, hstart, ⟨hfront, hlimit, fun other hother hfits => ?_⟩, by omega⟩
  obtain ⟨rest, hrest⟩ := toList_start_iff.mp hother
  exact start_of_utf8ByteSize_le hfront hother
    (hgreatest _ hfits (isBoundary_iff_exists.mpr ⟨other, rest, hrest, rfl⟩))

end EdgeConsole.Text
