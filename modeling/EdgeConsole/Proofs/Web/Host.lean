import EdgeConsole.Proofs.Text.Utf8
import EdgeConsole.Proofs.Web.Escape
import EdgeConsole.Web.Url.Basic

/-!
# Hosts that end in a blank

A host text whose last character is a blank or a control is refused (`ofName_append_edge`). Such a
character goes through every stage of reading a name as it is: it belongs to no percent escape, it
is a byte of its own, the mapping keeps it, and nothing composes with it. So the plain form of the
name still ends in it, and no plain form may hold it.

Each stage has one lemma here, about a text with one more character at its end.
-/

namespace EdgeConsole.Text

/-! ## Decoding -/

namespace Utf8

/-- A pending character asks for a continuation byte. -/
def Pending.WellFormed (p : Pending) : Prop := 0x80 ≤ p.low

theorem wellFormed_of_start {n : Nat} {p : Pending} (h : start n = .opened p) : p.WellFormed := by
  rw [start] at h
  repeat' split at h
  all_goals cases h <;> simp only [Pending.WellFormed, Nat.reduceLeDiff]

/-- The scan of bytes that end in an ASCII byte ends in its character. -/
theorem scan_append_ascii {x : UInt8} (hx : x.toNat < 0x80) (bs : List UInt8) :
    ∀ pending : Option Pending, (∀ p ∈ pending, p.WellFormed) →
      scan pending (bs ++ [x]) = scan pending bs ++ [some (Char.ofNat x.toNat)] := by
  have hstart : start x.toNat = .whole (Char.ofNat x.toNat) := by rw [start, if_pos hx]
  induction bs with
  | nil =>
    intro pending hp
    cases pending with
    | none => simp only [List.nil_append, scan, hstart]
    | some p =>
      have hlow : 0x80 ≤ p.low := hp p rfl
      have hnot : ¬ (p.low ≤ x.toNat ∧ x.toNat ≤ p.high) := by omega
      simp only [List.nil_append, scan, if_neg hnot, hstart, List.cons_append]
  | cons b bs ih =>
    have ihNone := ih none (by simp)
    have ihOpened {q : Pending} (hq : start b.toNat = .opened q) :=
      ih (some q) (by
        intro p hp
        obtain rfl := Option.mem_some_iff.mp hp
        exact wellFormed_of_start hq)
    intro pending hp
    cases pending with
    | none =>
      rw [List.cons_append, scan, scan]
      cases hb : start b.toNat with
      | whole c => simp only [ihNone, List.cons_append]
      | opened q => simp only [ihOpened hb]
      | invalid => simp only [ihNone, List.cons_append]
    | some p =>
      rw [List.cons_append, scan, scan]
      by_cases hin : p.low ≤ b.toNat ∧ b.toNat ≤ p.high
      · rw [if_pos hin, if_pos hin]
        by_cases howed : p.owed = 1
        · simp only [if_pos howed, ihNone, List.cons_append]
        · simp only [if_neg howed]
          apply ih
          intro q hq
          obtain rfl := Option.mem_some_iff.mp hq
          exact Nat.le_refl _
      · rw [if_neg hin, if_neg hin]
        cases hb : start b.toNat with
        | whole c => simp only [ihNone, List.cons_append]
        | opened q => simp only [ihOpened hb, List.cons_append]
        | invalid => simp only [ihNone, List.cons_append]

theorem decodeLossy_append_ascii {x : UInt8} (hx : x.toNat < 0x80) (bs : List UInt8) :
    decodeLossy (bs ++ [x]) = decodeLossy bs ++ [Char.ofNat x.toNat] := by
  rw [decodeLossy, scan_append_ascii hx bs none (by simp), List.map_append, ← decodeLossy]
  rfl

end Utf8

/-! ## Normal form -/

theorem placeMark_append_starter {d : Char} (hd : combiningClass d = 0) (c : Char)
    (cs : List Char) : placeMark c (cs ++ [d]) = placeMark c cs ++ [d] := by
  induction cs with
  | nil => simp only [List.nil_append, placeMark, hd, Nat.lt_irrefl, false_and, if_false,
      List.cons_append]
  | cons e cs ih =>
    rw [List.cons_append, placeMark, placeMark]
    split
    · rw [ih, List.cons_append]
    · rfl

/-- Ordering marks moves nothing past a character that is none. -/
theorem orderMarks_append_starter {d : Char} (hd : combiningClass d = 0) (cs : List Char) :
    orderMarks (cs ++ [d]) = orderMarks cs ++ [d] := by
  induction cs with
  | nil => rfl
  | cons c cs ih =>
    simp only [orderMarks, List.cons_append, List.foldr_cons] at ih ⊢
    rw [ih, placeMark_append_starter hd]

variable {c : Char}

theorem combiningClass_of_low (hc : c.toNat < 0x300) : combiningClass c = 0 := by
  rw [combiningClass, if_pos hc]

/-- What composition leaves of a text that ends below the combining marks ends as the text. -/
theorem composeAfter_append_low (hc : c.toNat < 0x300) (cs : List Char) :
    ∀ (starter : Char) (heldMarks : List Char),
      ∃ front, composeAfter starter heldMarks (cs ++ [c]) = front ++ [c] := by
  have hnone (a : Char) : compose? a c = none := by rw [compose?, if_pos hc]
  induction cs with
  | nil =>
    intro starter heldMarks
    refine ⟨starter :: heldMarks.reverse, ?_⟩
    simp only [List.nil_append, composeAfter, hnone, ite_self, combiningClass_of_low hc, if_true,
      List.reverse_nil]
  | cons d cs ih =>
    intro starter heldMarks
    rw [List.cons_append, composeAfter]
    split
    · exact ih _ _
    · split
      · obtain ⟨front, hfront⟩ := ih d []
        exact ⟨starter :: heldMarks.reverse ++ front, by rw [hfront, List.append_assoc]⟩
      · exact ih _ _

theorem composeMarks_append_low (hc : c.toNat < 0x300) (cs : List Char) :
    ∃ front, composeMarks (cs ++ [c]) = front ++ [c] := by
  induction cs with
  | nil =>
    refine ⟨[], ?_⟩
    simp only [List.nil_append, composeMarks, combiningClass_of_low hc, if_true, composeAfter,
      List.reverse_nil]
  | cons d cs ih =>
    rw [List.cons_append, composeMarks]
    split
    · exact composeAfter_append_low hc cs _ _
    · obtain ⟨front, hfront⟩ := ih
      exact ⟨d :: front, by rw [hfront, List.cons_append]⟩

/-- The normal form of a text that ends in a character without parts ends in it. -/
theorem normalize_append_low (hc : c.toNat < 0xC0) (cs : List Char) :
    ∃ front, normalize (cs ++ [c]) = front ++ [c] := by
  have hmark : c.toNat < 0x300 := Nat.lt_trans hc (by decide)
  have hparts : [c].flatMap decomposeChar = [c] := by
    rw [List.flatMap_singleton, decomposeChar, if_pos hc]
  rw [normalize, List.flatMap_append, hparts,
    orderMarks_append_starter (combiningClass_of_low hmark)]
  exact composeMarks_append_low hmark _

end EdgeConsole.Text

namespace EdgeConsole.Web

open Text (Utf8.decodeLossy)

variable {c : Char}

/-- A percent escape takes no character that is not a digit. -/
theorem percentDecode_append_of_not_digit (hdigit : hexDigit? c = none) (hc : c ≠ '%')
    (cs : List Char) :
    percentDecode (cs ++ [c]) = percentDecode cs ++ String.utf8EncodeChar c := by
  have hone : percentDecode [c] = String.utf8EncodeChar c := by
    rw [percentDecode_cons_of_ne hc, percentDecode, List.append_nil]
  fun_induction percentDecode cs with
  | case1 => simp only [List.nil_append, hone]
  | case2 a b rest x y hx hy ih =>
    rw [List.cons_append, List.cons_append, List.cons_append, percentDecode, hy, hx, ih]
    rfl
  | case3 a b rest hnone ih =>
    rw [List.cons_append, List.cons_append, List.cons_append, percentDecode]
    rw [List.cons_append, List.cons_append] at ih
    rw [ih, List.append_assoc]
    split
    · next x y hx hy => exact absurd hy (hnone x y hx)
    · rfl
  | case4 d rest hnot ih =>
    rw [List.cons_append, List.append_assoc, ← ih]
    rcases rest with _ | ⟨a, _ | ⟨b, tail⟩⟩
    · rw [List.nil_append, percentDecode]
      intro a b tail hd htail
      cases htail
    · by_cases hd : d = '%'
      · subst hd
        rw [List.cons_append, List.nil_append, percentDecode, hdigit]
        split
        · next x y hx hy => cases hy
        · rfl
      · exact percentDecode_cons_of_ne hd _
    · apply percentDecode_cons_of_ne
      rintro rfl
      exact hnot a b tail rfl rfl

namespace Domain

theorem mapName?_append_low (hc : c.toNat < 65) (cs : List Char) {name : List Char}
    (h : mapName? (cs ++ [c]) = some name) : c ∈ name := by
  have hlower : c.toLower = c := toLower_eq_self hc
  have hkept : mapChar? c = some [c] := by
    rw [mapChar?, if_pos (Nat.lt_trans hc (by decide)), hlower]
  rw [mapName?, List.mapM_append, Option.map_eq_some_iff] at h
  obtain ⟨parts, hparts, rfl⟩ := h
  obtain ⟨front, -, hback⟩ := Option.bind_eq_some_iff.mp hparts
  obtain ⟨last, hlast, hsum⟩ := Option.bind_eq_some_iff.mp hback
  simp only [List.mapM_cons, List.mapM_nil, hkept, Option.bind_eq_bind, Option.bind_some,
    Option.pure_def, Option.some.injEq] at hlast
  subst hlast
  obtain rfl := Option.some.inj hsum
  obtain ⟨kept, hkept⟩ := Text.normalize_append_low (Nat.lt_trans hc (by decide)) front.flatten
  rw [List.flatten_append, List.flatten_singleton, hkept]
  exact List.mem_append_right _ (List.mem_singleton_self c)

/-- No name ends in a blank or a control. -/
theorem plainName?_append_blank (hc : c.toNat ≤ 0x20) (cs : List Char) :
    plainName? (cs ++ [c]) = none := by
  rw [plainName?]
  cases hname : mapName? (cs ++ [c]) with
  | none => rfl
  | some name =>
    have hmem : c ∈ name := mapName?_append_low (by omega) cs hname
    have hforbidden : name.any isForbidden = true :=
      List.any_eq_true.mpr ⟨c, hmem, by simp only [isForbidden, hc, decide_true, Bool.true_or]⟩
    cases hlabels : (Text.splitOn '.' name).mapM readLabel? with
    | none => simp only [Option.bind_eq_bind, Option.bind_some, hlabels, Option.bind_none]
    | some labels =>
      simp only [Option.bind_eq_bind, Option.bind_some, hlabels, hforbidden, Bool.true_or, if_true]

end Domain

namespace Url

/-- No host ends in a blank or a control. -/
theorem ofName_append_edge (hc : isEdge c = true) (cs : List Char) :
    ∃ fault, Host.ofName (cs ++ [c]) = .error fault := by
  have hle : c.toNat ≤ 0x20 := of_decide_eq_true hc
  have hne (d : Char) (hd : 0x20 < d.toNat) : c ≠ d := by
    rintro rfl
    omega
  have hdigit : hexDigit? c = none := by
    rw [hexDigit?, if_neg (by omega), if_neg (by omega), if_neg (by omega)]
  have hbyte : String.utf8EncodeChar c = [UInt8.ofNat c.toNat] :=
    Text.Utf8.utf8EncodeChar_of_lt (by omega)
  have hsmall : (UInt8.ofNat c.toNat).toNat = c.toNat := by
    rw [UInt8.toNat_ofNat']
    omega
  have hname (ds : List Char) :
      Domain.plainName? (Utf8.decodeLossy (percentDecode (ds ++ [c]))) = none := by
    rw [percentDecode_append_of_not_digit hdigit (hne '%' (by decide)), hbyte,
      Text.Utf8.decodeLossy_append_ascii (by omega), hsmall, Char.ofNat_toNat]
    exact Domain.plainName?_append_blank hle _
  have hbracketed (ds : List Char) : bracketed (ds ++ [c]) = .error .invalidAddress6 := by
    rw [bracketed, List.reverse_append, List.reverse_singleton, List.singleton_append]
    split
    · next inner hrev => exact absurd (List.cons.inj hrev).1 (hne ']' (by decide))
    · rfl
  by_cases hopen : ∃ rest, cs ++ [c] = '[' :: rest
  · obtain ⟨rest, heq⟩ := hopen
    cases cs with
    | nil => exact absurd (List.cons.inj heq).1 (hne '[' (by decide))
    | cons d ds =>
      obtain ⟨rfl, -⟩ := List.cons.inj heq
      exact ⟨_, hbracketed ds⟩
  · refine ⟨.invalidName, ?_⟩
    rw [Host.ofName, hname cs]
    exact fun rest heq => hopen ⟨rest, heq⟩

end Url

end EdgeConsole.Web
