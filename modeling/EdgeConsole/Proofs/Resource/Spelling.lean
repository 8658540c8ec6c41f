import EdgeConsole.Proofs.Record.Restated
import EdgeConsole.Proofs.Resource.Catalogue
import EdgeConsole.Proofs.Web.Escape

/-!
# Spellings of fields

The service spells numbers and truth values in several ways, and what is absent in several more.
This module lists the spellings (`SpellsWord`, `SpellsFlag`, `SpellsInteger`, `Scalar.IsAbsent`)
and shows that each kind of field is blind to the difference, nested versions included. So a
resource is the same however it is spelled (`ResourceType.readText_restated`).
-/

namespace EdgeConsole.Resource

open Json (Outline Key)
open Outcome (bind_eq_ok_iff)
open Record (FieldKind SpelledKind Restated Schema)

/-! ## Words, truth values and integers -/

/-- The spellings of a word: a number, or its digits with blanks around them. -/
inductive SpellsWord (n : UInt32) : Outline → Prop
  | number {num : Json.Number} (h : Record.Weak.wordOf? num = some n) :
      SpellsWord n (.atom (.number num))
  | digits {before after : List Char} (hbefore : ∀ c ∈ before, Text.isBlank c = true)
      (hafter : ∀ c ∈ after, Text.isBlank c = true) :
      SpellsWord n
        (.atom (.text (String.ofList (before ++ (toString n.toNat).toList ++ after))))

/-- The words that stand for a truth value, in lower case. -/
def flagWords (b : Bool) : List String :=
  if b then ["1", "t", "true"] else ["0", "f", "false"]

/-- The spellings of a truth value: itself, one or zero, or a word in any letter case with blanks
around it. -/
inductive SpellsFlag (b : Bool) : Outline → Prop
  | bool : SpellsFlag b (.atom (.bool b))
  | number : SpellsFlag b (.atom (.number (.integer (if b then 1 else 0))))
  | word {before word after : List Char} (hbefore : ∀ c ∈ before, Text.isBlank c = true)
      (hafter : ∀ c ∈ after, Text.isBlank c = true)
      (hword : String.ofList (word.map Char.toLower) ∈ flagWords b) :
      SpellsFlag b (.atom (.text (String.ofList (before ++ word ++ after))))

/-- The spellings of an integer in a text field: itself or its digits. -/
inductive SpellsInteger (i : Int) : Outline → Prop
  | number : SpellsInteger i (.atom (.number (.integer i)))
  | digits : SpellsInteger i (.atom (.text (toString i)))

/-- A spelling of a word is a value that is converted to that word and is not blank. -/
theorem SpellsWord.exists_number {n : UInt32} {o : Outline} (h : SpellsWord n o) (depth : Nat) :
    ∃ v, o.readValue depth = .ok v ∧ Record.Weak.number v = .ok (some n) ∧
      ∀ s, v = .text s → Text.isBlankText s = false := by
  cases h with
  | number h => exact ⟨_, Json.readValue_number .., number_of_wordOf? h, nofun⟩
  | @digits before after hbefore hafter =>
    have hdigits : (toString n.toNat).toList = Nat.toDigits 10 n.toNat := by
      rw [Nat.toString_eq_repr, Nat.toList_repr]
    rw [hdigits]
    refine ⟨_, Json.readValue_text .., number_text hbefore hafter n, fun s hs => ?_⟩
    obtain rfl := Json.text.inj hs
    obtain ⟨d, ds, hd, hdigit⟩ := Json.exists_toDigits_eq_cons n.toNat
    apply Text.isBlankText_of_mem (c := d) _ (Text.isBlank_of_isDigit hdigit)
    simp [hd]

/-- A letter is no blank, whatever its case. -/
theorem isBlank_of_toLower {c : Char} (h : Text.isBlank c.toLower = false) :
    Text.isBlank c = false := by
  rcases Web.eq_or_of_toLower (c := c) rfl with hsame | ⟨hlow, hhigh, -⟩
  · rw [hsame]
    exact h
  · simp only [Text.isBlank, Bool.or_eq_false_iff, Bool.and_eq_false_iff, decide_eq_false_iff_not,
      beq_eq_false_iff_ne]
    omega

theorem isSolid_flagWords : ∀ b, ∀ w ∈ flagWords b, w.toList.all (!Text.isBlank ·) = true := by
  decide

/-- A spelling of a truth value is converted to it. -/
theorem SpellsFlag.exists_flag {b : Bool} {o : Outline} (h : SpellsFlag b o) (depth : Nat) :
    ∃ v, o.readValue depth = .ok v ∧ Record.Weak.flag v = .ok (some b) := by
  cases h with
  | bool => exact ⟨_, Json.readValue_bool .., rfl⟩
  | number =>
    refine ⟨_, Json.readValue_number .., ?_⟩
    cases b <;> rfl
  | @word before word after hbefore hafter hword =>
    refine ⟨_, Json.readValue_text .., ?_⟩
    have hsolid : Text.IsSolid word := by
      intro c hc
      have hall := List.all_eq_true.mp (isSolid_flagWords b _ hword) c.toLower
        (by simpa using ⟨c, hc, rfl⟩)
      exact isBlank_of_toLower (by simpa using hall)
    have hlower : (String.ofList word).map Char.toLower = String.ofList (word.map Char.toLower) := by
      apply String.toList_inj.mp
      rw [String.toList_map, String.toList_ofList, String.toList_ofList]
    simp only [Record.Weak.flag, Text.trim_blanks hsolid hbefore hafter, hlower]
    cases b with
    | true =>
      have hcases : String.ofList (word.map Char.toLower) = "1" ∨
          String.ofList (word.map Char.toLower) = "t" ∨
          String.ofList (word.map Char.toLower) = "true" := by
        simpa [flagWords] using hword
      rcases hcases with h | h | h <;> rw [h] <;> rfl
    | false =>
      have hcases : String.ofList (word.map Char.toLower) = "0" ∨
          String.ofList (word.map Char.toLower) = "f" ∨
          String.ofList (word.map Char.toLower) = "false" := by
        simpa [flagWords] using hword
      rcases hcases with h | h | h <;> rw [h] <;> rfl

/-- The text of an integer is its decimal text. -/
theorem text_integer (i : Int) : (Json.Number.integer i).text = toString i := by
  cases i with
  | ofNat n =>
    have hsign : ¬(Int.ofNat n < 0) := by simp
    rw [Json.Number.text, Json.Number.chars, if_neg hsign]
    exact ofList_toDigits n
  | negSucc n =>
    have hminus : toString (Int.negSucc n) = String.ofList ['-'] ++ toString (n + 1) := rfl
    rw [Json.Number.text, Json.Number.chars, if_pos (Int.negSucc_lt_zero n), hminus,
      ← ofList_toDigits, ← String.ofList_append]
    rfl

/-- A spelling of an integer is converted to its text. -/
theorem SpellsInteger.exists_text {i : Int} {o : Outline} (h : SpellsInteger i o) (depth : Nat) :
    ∃ v, o.readValue depth = .ok v ∧ Record.Weak.text v = .ok (some (toString i)) := by
  cases h with
  | number => exact ⟨_, Json.readValue_number .., by rw [Record.Weak.text, text_integer]⟩
  | digits => exact ⟨_, Json.readValue_text .., rfl⟩

/-! ## Kinds of fields -/

/-- The kinds that hold a word. -/
def wordKinds : List Scalar := [.weak .number, .optional .number, .optional .directorType]

/-- The kinds that hold a truth value. -/
def flagKinds : List Scalar := [.weak .flag, .optional .flag]

/-- The kinds for which a blank text is nothing. -/
def blankKinds : List Scalar :=
  [.weak .number, .weak .flag, .optional .number, .optional .flag, .optional .instant,
   .optional .directorType, .optional .conditionType, .optional .redundancy]

/-- Two spellings of one value. -/
inductive Scalar.Alike : Scalar → Outline → Outline → Prop
  | word {k : Scalar} {n : UInt32} {o o' : Outline} (hk : k ∈ wordKinds) (h : SpellsWord n o)
      (h' : SpellsWord n o') : Alike k o o'
  | flag {k : Scalar} {b : Bool} {o o' : Outline} (hk : k ∈ flagKinds) (h : SpellsFlag b o)
      (h' : SpellsFlag b o') : Alike k o o'
  | integer {i : Int} {o o' : Outline} (h : SpellsInteger i o) (h' : SpellsInteger i o') :
      Alike (.weak .text) o o'

/-- The spellings of nothing: null, and for most kinds a blank text, but for a text field only the
empty one. -/
inductive Scalar.IsAbsent : Scalar → Outline → Prop
  | null {k : Scalar} (hk : k ≠ .plainText) : IsAbsent k (.atom .null)
  | blank {k : Scalar} {s : String} (hk : k ∈ blankKinds) (hs : Text.isBlankText s = true) :
      IsAbsent k (.atom (.text s))
  | empty : IsAbsent (.weak .text) (.atom (.text ""))

theorem Scalar.exists_read_word {k : Scalar} (hk : k ∈ wordKinds) (n : UInt32) :
    ∃ x : k.Val, ∀ o, SpellsWord n o → ∀ depth, k.read depth o = .ok x := by
  simp only [wordKinds, List.mem_cons, List.not_mem_nil, or_false] at hk
  rcases hk with rfl | rfl | rfl
  · refine ⟨n, fun o h depth => ?_⟩
    obtain ⟨v, hv, hn, -⟩ := h.exists_number depth
    exact Weak.read_eq_ok_iff (w := .number).mpr ⟨v, hv, some n, hn, rfl⟩
  · refine ⟨some n, fun o h depth => ?_⟩
    obtain ⟨v, hv, hn, -⟩ := h.exists_number depth
    exact weakRead_eq_ok_iff.mpr ⟨v, hv, hn⟩
  · refine ⟨some (.ofCode n), fun o h depth => ?_⟩
    obtain ⟨v, hv, hn, hblank⟩ := h.exists_number depth
    have htype : directorTypeOf v = .ok (.ofCode n) := by
      rw [directorTypeOf, hn]
      rfl
    have hnull : v ≠ .null := by
      rintro rfl
      cases Except.ok.inj hn
    exact weakRead_eq_ok_iff.mpr ⟨v, hv, nonBlank_eq_ok_of hblank htype hnull⟩

theorem Scalar.exists_read_flag {k : Scalar} (hk : k ∈ flagKinds) (b : Bool) :
    ∃ x : k.Val, ∀ o, SpellsFlag b o → ∀ depth, k.read depth o = .ok x := by
  simp only [flagKinds, List.mem_cons, List.not_mem_nil, or_false] at hk
  rcases hk with rfl | rfl
  · refine ⟨b, fun o h depth => ?_⟩
    obtain ⟨v, hv, hb⟩ := h.exists_flag depth
    exact Weak.read_eq_ok_iff (w := .flag).mpr ⟨v, hv, some b, hb, rfl⟩
  · refine ⟨some b, fun o h depth => ?_⟩
    obtain ⟨v, hv, hb⟩ := h.exists_flag depth
    exact weakRead_eq_ok_iff.mpr ⟨v, hv, hb⟩

theorem Scalar.exists_read_integer (i : Int) :
    ∃ x : Scalar.Val (.weak .text), ∀ o, SpellsInteger i o →
      ∀ depth, Scalar.read (.weak .text) depth o = .ok x := by
  refine ⟨toString i, fun o h depth => ?_⟩
  obtain ⟨v, hv, hi⟩ := h.exists_text depth
  exact Weak.read_eq_ok_iff (w := .text).mpr ⟨v, hv, some (toString i), hi, rfl⟩

/-- Two spellings of one value are read as that value. -/
theorem Scalar.Alike.exists_read {k : Scalar} {o o' : Outline} (h : k.Alike o o') (depth : Nat) :
    ∃ x : k.Val, k.read depth o = .ok x ∧ k.read depth o' = .ok x := by
  cases h with
  | @word _ n _ _ hk h h' =>
    obtain ⟨x, hx⟩ := Scalar.exists_read_word hk n
    exact ⟨x, hx _ h depth, hx _ h' depth⟩
  | @flag _ b _ _ hk h h' =>
    obtain ⟨x, hx⟩ := Scalar.exists_read_flag hk b
    exact ⟨x, hx _ h depth, hx _ h' depth⟩
  | @integer i _ _ h h' =>
    obtain ⟨x, hx⟩ := Scalar.exists_read_integer i
    exact ⟨x, hx _ h depth, hx _ h' depth⟩

theorem Scalar.Alike.read_iff {k : Scalar} {o o' : Outline} (h : k.Alike o o') (depth : Nat)
    (v : k.Val) : k.read depth o = .ok v ↔ k.read depth o' = .ok v := by
  obtain ⟨x, hx, hx'⟩ := h.exists_read depth
  rw [hx, hx']

theorem number_of_isBlankText {s : String} (h : Text.isBlankText s = true) :
    Record.Weak.number (.text s) = .ok none := by
  simp only [Record.Weak.number, Text.trim_of_isBlankText h, if_true]

theorem flag_of_isBlankText {s : String} (h : Text.isBlankText s = true) :
    Record.Weak.flag (.text s) = .ok none := by
  have hlower : ("".map Char.toLower) = "" := by
    apply String.toList_inj.mp
    rw [String.toList_map]
    rfl
  simp only [Record.Weak.flag, Text.trim_of_isBlankText h, hlower, if_true]

theorem nonBlank_of_isBlankText {α : Type} {convert : Json → Except Json.DataError α} {s : String}
    (h : Text.isBlankText s = true) : nonBlank convert (.text s) = .ok none := by
  rw [nonBlank, if_pos h]

theorem Scalar.read_blank {k : Scalar} (hk : k ∈ blankKinds) {s : String}
    (hs : Text.isBlankText s = true) (depth : Nat) :
    k.read depth (.atom (.text s)) = .ok k.default := by
  have hread := Json.readValue_text depth s
  simp only [blankKinds, List.mem_cons, List.not_mem_nil, or_false] at hk
  rcases hk with rfl | rfl | rfl | rfl | rfl | rfl | rfl | rfl
  · exact Weak.read_eq_ok_iff (w := .number).mpr ⟨_, hread, none, number_of_isBlankText hs, rfl⟩
  · exact Weak.read_eq_ok_iff (w := .flag).mpr ⟨_, hread, none, flag_of_isBlankText hs, rfl⟩
  · exact weakRead_eq_ok_iff.mpr ⟨_, hread, number_of_isBlankText hs⟩
  · exact weakRead_eq_ok_iff.mpr ⟨_, hread, flag_of_isBlankText hs⟩
  · refine bind_eq_ok_iff.mpr ⟨some s, rfl, ?_⟩
    simp only [hs, if_true]
    rfl
  · exact weakRead_eq_ok_iff.mpr ⟨_, hread, nonBlank_of_isBlankText hs⟩
  · exact weakRead_eq_ok_iff.mpr ⟨_, hread, nonBlank_of_isBlankText hs⟩
  · exact weakRead_eq_ok_iff.mpr ⟨_, hread, nonBlank_of_isBlankText hs⟩

/-- A spelling of nothing is read as the default. -/
theorem Scalar.IsAbsent.read_eq {k : Scalar} {o : Outline} (h : k.IsAbsent o) (depth : Nat) :
    k.read depth o = .ok k.default := by
  cases h with
  | null hk =>
    cases k with
    | plainText => exact absurd rfl hk
    | weak w =>
      refine Weak.read_eq_ok_iff.mpr ⟨_, Json.readValue_null .., none, ?_, rfl⟩
      cases w <;> rfl
    | optional s => exact s.read_null depth
    | texts => rfl
  | blank hk hs => exact Scalar.read_blank hk hs depth
  | empty =>
    have h := Json.readValue_text depth ""
    exact Weak.read_eq_ok_iff (w := .text).mpr ⟨_, h, some "", rfl, rfl⟩

instance : SpelledKind Scalar where
  Alike := Scalar.Alike
  IsAbsent := Scalar.IsAbsent
  read_of_alike h depth v := h.read_iff depth v
  read_of_isAbsent {k o} h depth v := by
    show Scalar.read k depth o = _ ↔ some k.default = some v
    rw [h.read_eq depth]
    simp

/-! ## Kinds of service fields -/

/-- Two spellings of one version: the same, or two objects that say the same. -/
inductive VersionAlike : Outline → Outline → Prop
  | same (o : Outline) : VersionAlike o o
  | restated {ms ns : List (Key × Outline)} (h : Restated versionSchema.fields ms ns) :
      VersionAlike (.object ms none) (.object ns none)

/-- Two spellings of one value of a service field. -/
inductive ServiceKind.Alike : ServiceKind → Outline → Outline → Prop
  | scalar {k : Scalar} {o o' : Outline} (h : k.Alike o o') : Alike (.scalar k) o o'
  | version {o o' : Outline} (h : VersionAlike o o') : Alike .version o o'
  | versions {os os' : List Outline} (h : List.Forall₂ VersionAlike os os') :
      Alike .versions (.list os none) (.list os' none)

/-- The spellings of nothing in a service field: a version and a list of versions may be null. -/
inductive ServiceKind.IsAbsent : ServiceKind → Outline → Prop
  | scalar {k : Scalar} {o : Outline} (h : k.IsAbsent o) : IsAbsent (.scalar k) o
  | version : IsAbsent .version (.atom .null)
  | versions : IsAbsent .versions (.atom .null)

theorem VersionAlike.read_iff {o o' : Outline} (h : VersionAlike o o') (depth : Nat)
    (v : Version) : versionSchema.read depth o = .ok v ↔ versionSchema.read depth o' = .ok v := by
  cases h with
  | same => exact Iff.rfl
  | restated h => exact Schema.read_restated distinct_versionSchema h v

theorem VersionAlike.null_iff {o o' : Outline} (h : VersionAlike o o') :
    o = .atom .null ↔ o' = .atom .null := by
  cases h with
  | same => exact Iff.rfl
  | restated h => exact ⟨nofun, nofun⟩

theorem ServiceKind.Alike.read_iff {k : ServiceKind} {o o' : Outline} (h : k.Alike o o')
    (depth : Nat) (v : k.Val) : k.read depth o = .ok v ↔ k.read depth o' = .ok v := by
  cases h with
  | scalar h => exact h.read_iff depth v
  | version h =>
    show o.readOption (versionSchema.read depth) = _ ↔ o'.readOption (versionSchema.read depth) = _
    rw [Json.readOption_eq_ok_iff, Json.readOption_eq_ok_iff]
    simp only [ne_eq, h.null_iff, h.read_iff]
  | @versions os os' h =>
    show (Outline.list os none).readListOrNull depth versionSchema.read = _ ↔
      (Outline.list os' none).readListOrNull depth versionSchema.read = _
    rw [Json.readListOrNull_list_eq_ok_iff, Json.readListOrNull_list_eq_ok_iff]
    refine exists_congr fun d => and_congr_right fun _ => ?_
    exact Json.readEach_congr (h.imp fun _ _ ho w => ho.read_iff d w) v

instance : SpelledKind ServiceKind where
  Alike := ServiceKind.Alike
  IsAbsent := ServiceKind.IsAbsent
  read_of_alike h depth v := h.read_iff depth v
  read_of_isAbsent {k o} h depth v := by
    show ServiceKind.read k depth o = _ ↔ some k.default = some v
    have hread : ServiceKind.read k depth o = .ok k.default := by
      cases h with
      | scalar h => exact h.read_eq depth
      | version => rfl
      | versions => rfl
    rw [hread]
    simp

/-! ## Types of resources -/

instance ResourceType.instSpelledKind : (T : ResourceType) → SpelledKind T.Kind
  | .versioned _ => inferInstanceAs (SpelledKind Scalar)
  | .directorBackend => inferInstanceAs (SpelledKind Scalar)
  | .service => inferInstanceAs (SpelledKind ServiceKind)
  | .serviceDetail => inferInstanceAs (SpelledKind ServiceKind)
  | .version => inferInstanceAs (SpelledKind Scalar)
  | .token => inferInstanceAs (SpelledKind Scalar)
  | .user => inferInstanceAs (SpelledKind Scalar)

/-- A resource is read from both of two texts whose objects say the same, or from neither. -/
theorem ResourceType.readText_restated (T : ResourceType) {text text' : String}
    {ms ns : List (Key × Outline)}
    (htext : Json.Document.ofText text = ⟨.object ms none, true⟩)
    (htext' : Json.Document.ofText text' = ⟨.object ns none, true⟩)
    (h : Restated T.schema.fields ms ns) (v : T.Value) :
    T.schema.readText text = .ok v ↔ T.schema.readText text' = .ok v :=
  Schema.readText_iff_of_restated T.distinct_schema htext htext' h v

/-- The case of a version with its number and a truth value spelled otherwise, its members in
another order, a time that is blank, and a member that no version has. -/
theorem ResourceType.readText_restated_version :
    ∃ v : ResourceType.version.Value,
      ResourceType.version.schema.readText
        (Json.object [("number", .number (.integer 7)), ("active", .bool true)]).compact = .ok v ∧
      ResourceType.version.schema.readText
        (Json.object [("etag", .list []), ("created_at", .text " "), ("active", .text "T"),
          ("number", .text " 7 ")]).compact = .ok v := by
  have hseven : (Json.number (.integer 7)).IsExact := .number (n := 7) (by decide)
  have hexact : (Json.object [("number", .number (.integer 7)), ("active", .bool true)]).IsExact :=
    .object (by simp [hseven, Json.IsExact.bool])
  have hlist : (Json.list []).IsExact := .list nofun
  have hexact' : (Json.object [("etag", .list []), ("created_at", .text " "), ("active", .text "T"),
      ("number", .text " 7 ")]).IsExact :=
    .object (by simp [hlist, Json.IsExact.text])
  have hblank : ∀ c ∈ [' '], Text.isBlank c = true := List.forall_mem_singleton.mpr (by decide)
  have hnone : ∀ c ∈ ([] : List Char), Text.isBlank c = true := nofun
  have htrue : String.ofList (['T'].map Char.toLower) ∈ flagWords true := by decide
  have hpadded : String.ofList ([' '] ++ (toString (7 : UInt32).toNat).toList ++ [' ']) = " 7 " := by
    decide
  have hnumber : Scalar.Alike (.weak .number) (.atom (.number (.integer 7)))
      (.atom (.text " 7 ")) :=
    .word (n := 7) (by decide) (.number rfl) (hpadded ▸ .digits hblank hblank)
  have hflag : Scalar.Alike (.weak .flag) (.atom (.bool true)) (.atom (.text "T")) :=
    .flag (b := true) (by decide) .bool (.word hnone hnone htrue)
  have hsteps : Restated ResourceType.version.schema.fields
      (Outline.ofMembers [("number", .number (.integer 7)), ("active", .bool true)])
      (Outline.ofMembers [("etag", .list []), ("created_at", .text " "), ("active", .text "T"),
        ("number", .text " 7 ")]) := by
    refine .trans _ _ _ (.rel _ _ (.respelled (f := weakNumber "number") (by decide) hnumber)) ?_
    refine .trans _ _ _ (.rel _ _ (.reordered (.swap _ _ _))) ?_
    refine .trans _ _ _ (.rel _ _ (.respelled (f := weakFlag "active") (by decide) hflag)) ?_
    refine .trans _ _ _ (.rel _ _ (.absent (f := shown "created_at" .instant) (by decide)
      (by decide) (.blank (s := " ") (by decide) (by decide)))) ?_
    exact .rel _ _ (.unknown (by decide) (Json.skip_ofJson (.list [])))
  have hsame := ResourceType.readText_restated .version (Json.ofText_compact hexact)
    (Json.ofText_compact hexact') hsteps
  have hread : ResourceType.version.schema.readText
      (Json.object [("number", .number (.integer 7)), ("active", .bool true)]).compact =
        .ok _ :=
    Json.readText_eq_ok_iff.mpr ⟨_, Json.ofText_compact hexact, rfl⟩
  exact ⟨_, hread, (hsame _).mp hread⟩

end EdgeConsole.Resource
