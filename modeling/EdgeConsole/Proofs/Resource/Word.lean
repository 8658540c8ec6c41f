import EdgeConsole.Proofs.Number.Rounding
import EdgeConsole.Proofs.Resource.Kind

/-!
# Words that are weakly typed

A number of 32 bits is read from a number, from a numeral or from a truth value. `CountsAs` lists
what counts as which word, without a word on how it is read: nothing wraps, nothing is cut off, and
an integer beyond 32 bits counts as no word at all. Reading finds exactly that for every value that
is no floating-point number (`read_word_iff`), whether the word may be absent or is zero then.

An integer that is out of range is tried once more as floating point. That admits none of them, as
rounding neither takes a number below `2 ^ 32` nor makes one that is negative a natural number
(`wordOf?_of_outOfRange`).
-/

namespace EdgeConsole.Resource

open Json (DataError Outline)
open Number (Binary64 IsNumeral)
open Record.Weak (number wordOf?)

/-- What a value counts as where a word may stand. A text counts by what is left of it without the
blanks at its two ends. -/
inductive CountsAs : Json → Option UInt32 → Prop
  | null : CountsAs .null none
  | blank {s : String} (h : Text.trim s = "") : CountsAs (.text s) none
  | integer (n : UInt32) : CountsAs (.number (.integer n.toNat)) (some n)
  | numeral {s : String} {n : UInt32} (h : IsNumeral (Text.trim s).toList n.toNat) :
      CountsAs (.text s) (some n)
  | yes : CountsAs (.bool true) (some 1)
  | no : CountsAs (.bool false) (some 0)

/-- How a value is refused that does not count as a word. -/
def wordRefusal : Json → DataError
  | .number n => .notWord n
  | .text s => .textNotWord s
  | v => .notInteger v

/-! ## Integers -/

/-- The second attempt, through floating point, admits no integer that was refused. -/
theorem wordOf?_of_outOfRange {i : Int} (h : i < 0 ∨ (UInt32.size : Int) ≤ i) :
    wordOf? (.integer i) = none := by
  have hsize : UInt32.size = 2 ^ 32 := rfl
  have hexact : ¬(0 ≤ i ∧ i < (UInt32.size : Int)) := by omega
  have hzero : i.natAbs ≠ 0 := by omega
  have hrounded : ((Json.Number.integer i).toFloat?.bind (·.toNat?)).filter (· < UInt32.size) =
      none := by
    rw [Json.Number.toFloat?]
    rcases Option.eq_none_or_eq_some (Binary64.ofNat? i.natAbs) with hnone | ⟨x, hx⟩
    · rw [hnone]
      rfl
    · rw [hx, Option.map_some, Option.bind_some]
      rcases h with hnegative | hlarge
      · rw [decide_eq_true hnegative, Binary64.toNat?_withSign_true hzero hx]
        rfl
      · apply Option.filter_eq_none_iff.mpr
        intro k hk
        have hlog : 32 ≤ i.natAbs.log2 := (Nat.le_log2 hzero).mpr (by omega)
        have hpow := Nat.pow_le_pow_right (show 0 < 2 by decide) hlog
        have hle := Binary64.le_of_toNat?_ofNat? hzero hx hk
        simp only [decide_eq_true_eq]
        omega
  simp only [wordOf?, if_neg hexact, hrounded]
  rfl

/-- An integer is a word if it is in range, and otherwise none. -/
theorem wordOf?_integer_eq_some_iff {i : Int} {n : UInt32} :
    wordOf? (.integer i) = some n ↔ i = n.toNat := by
  constructor
  · intro h
    by_cases hrange : 0 ≤ i ∧ i < (UInt32.size : Int)
    · obtain ⟨m, rfl⟩ := Int.eq_ofNat_of_zero_le hrange.1
      have hlt : m < UInt32.size := by omega
      have hword := wordOf?_integer (UInt32.ofNat m)
      rw [UInt32.toNat_ofNat_of_lt' hlt] at hword
      obtain rfl := Option.some.inj (hword.symm.trans h)
      rw [UInt32.toNat_ofNat_of_lt' hlt]
    · rw [wordOf?_of_outOfRange (by omega)] at h
      cases h
  · rintro rfl
    exact wordOf?_integer n

/-! ## Values -/

/-- A value that is no floating-point number is converted to what it counts as. -/
theorem number_eq_ok_iff {v : Json} (hv : ∀ x, v ≠ .number (.float x)) {n? : Option UInt32} :
    number v = .ok n? ↔ CountsAs v n? := by
  constructor
  · intro h
    unfold number at h
    split at h
    · obtain rfl := Except.ok.inj h
      exact .null
    · next num =>
      split at h
      · next w hw =>
        obtain rfl := Except.ok.inj h
        cases num with
        | integer i =>
          obtain rfl := wordOf?_integer_eq_some_iff.mp hw
          exact .integer w
        | float x => exact absurd rfl (hv x)
      · cases h
    · next s =>
      dsimp only at h
      split at h
      · next hblank =>
        obtain rfl := Except.ok.inj h
        exact .blank hblank
      · split at h
        · next w hw =>
          obtain rfl := Except.ok.inj h
          exact .numeral (Number.readWord32_eq_ok_iff.mp hw)
        · cases h
    · next b =>
      obtain rfl := Except.ok.inj h
      cases b with
      | true => exact .yes
      | false => exact .no
    · cases h
  · intro h
    cases h with
    | null => rfl
    | blank h => simp only [number, h, if_true]
    | integer n => exact number_of_wordOf? (wordOf?_integer n)
    | @numeral s n h =>
      have hne : Text.trim s ≠ "" := by
        intro hempty
        obtain ⟨ds, hds | hds, hnil, -⟩ := h
        · rw [hempty] at hds
          exact hnil hds.symm
        · rw [hempty] at hds
          cases hds
      simp only [number, if_neg hne, Number.readWord32_eq_ok_iff.mpr h]
    | yes => rfl
    | no => rfl

/-- A value that is refused is named by the refusal. -/
theorem eq_wordRefusal_of_number {v : Json} {e : DataError} (h : number v = .error e) :
    e = wordRefusal v := by
  cases v with
  | null => cases h
  | bool b => cases h
  | number n =>
    rw [number] at h
    split at h
    · cases h
    · exact (Except.error.inj h).symm
  | text s =>
    simp only [number] at h
    split at h
    · cases h
    split at h
    · cases h
    · exact (Except.error.inj h).symm
  | list items => exact (Except.error.inj h).symm
  | object members => exact (Except.error.inj h).symm

/-- A value that counts as nothing of the kind is refused. -/
theorem number_eq_error {v : Json} (hv : ∀ x, v ≠ .number (.float x))
    (h : ∀ n?, ¬CountsAs v n?) : number v = .error (wordRefusal v) := by
  cases hnumber : number v with
  | ok n? => exact absurd ((number_eq_ok_iff hv).mp hnumber) (h n?)
  | error e => rw [eq_wordRefusal_of_number hnumber]

/-! ## Fields -/

theorem weakRead_eq {α : Type} {convert : Json → Except DataError α} {depth : Nat} {o : Outline}
    {v : Json} (hv : o.readValue depth = .ok v) :
    Record.Weak.read convert depth o = (convert v).mapError Json.ReadError.data := by
  rw [Record.Weak.read, hv]
  dsimp only [bind, Except.bind]
  cases convert v <;> rfl

/-- A word that may be absent is read from a value, unless that is a floating-point number, exactly
as the value counts, and is refused if the value does not count as a word; and a word that is zero
when it is absent is read from the same values as the same word. -/
theorem read_word_iff {depth : Nat} {o : Outline} {v : Json} (hv : o.readValue depth = .ok v)
    (hfloat : ∀ x, v ≠ .number (.float x)) :
    (∀ n?, Setting.number.read depth o = .ok n? ↔ CountsAs v n?) ∧
    (∀ n, Weak.number.read depth o = .ok n ↔ ∃ n?, CountsAs v n? ∧ n = n?.getD 0) ∧
    ((∀ n?, ¬CountsAs v n?) →
      Setting.number.read depth o = .error (.data (wordRefusal v)) ∧
      Weak.number.read depth o = .error (.data (wordRefusal v))) := by
  have hread : Setting.number.read depth o = (number v).mapError Json.ReadError.data :=
    weakRead_eq hv
  have hweak : Weak.number.read depth o =
      ((number v).mapError Json.ReadError.data).map (·.getD 0) :=
    congrArg (Except.map fun n? : Option UInt32 => n?.getD 0) hread
  have hcounts (n? : Option UInt32) :
      (number v).mapError Json.ReadError.data = .ok n? ↔ CountsAs v n? := by
    rw [← number_eq_ok_iff hfloat]
    cases number v <;> simp [Except.mapError]
  refine ⟨fun n? => ?_, fun n => ?_, fun hnone => ?_⟩
  · rw [hread]
    exact hcounts n?
  · rw [hweak, Outcome.map_eq_ok_iff]
    constructor
    · rintro ⟨n?, hn, rfl⟩
      exact ⟨n?, (hcounts n?).mp hn, rfl⟩
    · rintro ⟨n?, hn, rfl⟩
      exact ⟨n?, (hcounts n?).mpr hn, rfl⟩
  · rw [hread, hweak, number_eq_error hfloat hnone]
    exact ⟨rfl, rfl⟩

/-- The cases of the largest word, spelled with a plus sign, leading zeros and blanks around it, and
of the integer after it, which no word is. -/
theorem read_word_iff_largest :
    (Setting.number.read 127 (.atom (.text " +004294967295\n")) = .ok (some 4294967295) ∧
      Weak.number.read 127 (.atom (.text " +004294967295\n")) = .ok 4294967295) ∧
    Setting.number.read 127 (.atom (.number (.integer 4294967296))) =
      .error (.data (.notWord (.integer 4294967296))) := by
  have htext : CountsAs (.text " +004294967295\n") (some 4294967295) :=
    .numeral ⟨"004294967295".toList, .inr rfl, by decide, List.all_eq_true.mp rfl, rfl⟩
  have hbeyond : ∀ n?, ¬CountsAs (.number (.integer 4294967296)) n? := by
    intro n? h
    generalize hv : Json.number (.integer 4294967296) = v at h
    cases h with
    | integer n =>
      have hlt := n.toNat_lt
      have hvalue := Json.Number.integer.inj (Json.number.inj hv)
      omega
    | null => cases hv
    | blank => cases hv
    | numeral => cases hv
    | yes => cases hv
    | no => cases hv
  have hnumeral : (Outline.atom (.text " +004294967295\n")).readValue 127 =
      .ok (.text " +004294967295\n") := Json.readValue_text ..
  have hinteger : (Outline.atom (.number (.integer 4294967296))).readValue 127 =
      .ok (.number (.integer 4294967296)) := Json.readValue_number ..
  constructor
  · obtain ⟨hread, hweak, -⟩ := read_word_iff hnumeral nofun
    exact ⟨(hread _).mpr htext, (hweak _).mpr ⟨_, htext, rfl⟩⟩
  · exact ((read_word_iff hinteger nofun).2.2 hbeyond).1

end EdgeConsole.Resource
