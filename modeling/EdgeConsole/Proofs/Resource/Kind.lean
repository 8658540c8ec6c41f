import EdgeConsole.Proofs.Calendar.Timestamp
import EdgeConsole.Proofs.Json.Reading
import EdgeConsole.Proofs.Record.Members
import EdgeConsole.Proofs.Text.Blank
import EdgeConsole.Resource.Account

/-!
# Values of fields

A field is written in one spelling and read from many. Here each kind of field is shown to read its
own spelling back (`Scalar.rereads`, `ServiceKind.rereads`). That needs something of the value: a
choice without a name of its own has no other spelling (`Setting.IsProper`), which holds of every
value that was read (`Scalar.isProper_of_isRead`), and the year of a time has four digits
(`Setting.InYears`), which need not.
-/

namespace EdgeConsole.Resource

open Json (Outline ReadError DataError)
open Outcome (bind_eq_ok_iff map_eq_ok_iff)
open Record (FieldKind IsRead Rereads Row Schema)

/-! ## Choices -/

/-- A choice without a name of its own is spelled by something that is neither blank nor a known
spelling. -/
def Spelling.IsProper {α : Type} (s : Spelling α) (a : α) : Prop :=
  ∀ text, a = s.other text → Text.isBlankText text = false ∧ text ∉ s.known.map (·.1)

/-- No known choice is also one without a name, and those keep their spellings. -/
structure Spelling.IsFaithful {α : Type} (s : Spelling α) : Prop where
  known_ne : ∀ p ∈ s.known, ∀ text, p.2 ≠ s.other text
  other_inj : ∀ t u, s.other t = s.other u → t = u

namespace Spelling

variable {α : Type} {s : Spelling α}

/-- A text that is not a known spelling makes a choice without a name. -/
theorem ofText_of_not_mem {text : String} (h : text ∉ s.known.map (·.1)) :
    s.ofText text = s.other text := by
  have hnone : s.known.find? (·.1 == text) = none := by
    apply List.find?_eq_none.mpr
    intro p hp hname
    exact h (List.mem_map.mpr ⟨p, hp, by simpa using hname⟩)
  rw [ofText, hnone]

theorem IsFaithful.isProper_of_mem (hs : s.IsFaithful) {p : String × α} (hp : p ∈ s.known) :
    s.IsProper p.2 :=
  fun text h => absurd h (hs.known_ne p hp text)

/-- What a text spells is proper unless the text is blank. -/
theorem IsFaithful.isProper_ofText (hs : s.IsFaithful) {text : String}
    (h : Text.isBlankText text = false) : s.IsProper (s.ofText text) := by
  unfold ofText
  split
  · next name a hfind => exact hs.isProper_of_mem (List.mem_of_find?_eq_some hfind)
  · next hfind =>
    intro u hu
    obtain rfl := hs.other_inj text u hu
    refine ⟨h, fun hmem => ?_⟩
    obtain ⟨p, hp, hname⟩ := List.mem_map.mp hmem
    exact List.find?_eq_none.mp hfind p hp (by simpa using hname)

theorem IsFaithful.isProper_of_ofJson (hs : s.IsFaithful) {v : Json} {a : α}
    (h : s.ofJson v = .ok a) (hv : ∀ t, v = .text t → Text.isBlankText t = false) :
    s.IsProper a := by
  unfold ofJson at h
  split at h
  · next t =>
    obtain rfl := Except.ok.inj h
    exact hs.isProper_ofText (hv t rfl)
  · split at h
    · next known hfind =>
      obtain rfl := Except.ok.inj h
      exact hs.isProper_of_mem (List.mem_of_find?_eq_some hfind)
    · cases h
  · cases h

end Spelling

theorem ConditionType.isFaithful : spelling.IsFaithful where
  known_ne p hp text h := by
    have hp' : p.2 = .request ∨ p.2 = .cache ∨ p.2 = .response := by
      simp only [spelling, List.mem_cons, List.not_mem_nil, or_false] at hp
      rcases hp with rfl | rfl | rfl <;> simp
    rw [h] at hp'
    rcases hp' with h | h | h <;> exact ConditionType.noConfusion h
  other_inj _ _ h := ConditionType.other.inj h

theorem Redundancy.isFaithful : spelling.IsFaithful where
  known_ne p hp text h := by
    have hp' : p.2 = .standard ∨ p.2 = .reducedRedundancy := by
      simp only [spelling, List.mem_cons, List.not_mem_nil, or_false] at hp
      rcases hp with rfl | rfl <;> simp
    rw [h] at hp'
    rcases hp' with h | h <;> exact Redundancy.noConfusion h
  other_inj _ _ h := Redundancy.other.inj h

/-- A proper stage is what its text spells, and that text is not blank. -/
theorem ConditionType.ofText_text {c : ConditionType} (h : spelling.IsProper c) :
    spelling.ofText c.text = c ∧ Text.isBlankText c.text = false := by
  cases c with
  | request => decide
  | cache => decide
  | response => decide
  | other s =>
    obtain ⟨hblank, hnew⟩ := h s rfl
    exact ⟨Spelling.ofText_of_not_mem hnew, hblank⟩

/-- A proper storage class is what its text spells, and that text is not blank. -/
theorem Redundancy.ofText_text {r : Redundancy} (h : spelling.IsProper r) :
    spelling.ofText r.text = r ∧ Text.isBlankText r.text = false := by
  cases r with
  | standard => decide
  | reducedRedundancy => decide
  | other s =>
    obtain ⟨hblank, hnew⟩ := h s rfl
    exact ⟨Spelling.ofText_of_not_mem hnew, hblank⟩

/-- A director type that some code stands for is the one that its own code stands for. -/
theorem DirectorType.ofCode_code {d : DirectorType} (h : ∃ n, d = .ofCode n) :
    ofCode d.code = d := by
  obtain ⟨n, rfl⟩ := h
  rw [code_ofCode]

/-! ## Conversions -/

theorem isSolid_toDigits (n : Nat) : Text.IsSolid (Nat.toDigits 10 n) :=
  fun _ hc => Text.isBlank_of_isDigit (Number.isDigit_of_mem_toDigits hc)

theorem ofList_toDigits (n : Nat) : String.ofList (Nat.toDigits 10 n) = toString n := by
  rw [Nat.toString_eq_repr]
  apply String.toList_inj.mp
  rw [Nat.toList_repr, String.toList_ofList]

theorem toString_ne_empty (n : Nat) : toString n ≠ "" := by
  intro h
  have hlist := congrArg String.toList h
  rw [Nat.toString_eq_repr, Nat.toList_repr] at hlist
  exact Nat.toDigits_ne_nil hlist

/-- A word is the number that it is. -/
theorem wordOf?_integer (n : UInt32) : Record.Weak.wordOf? (.integer n.toNat) = some n := by
  have hrange : (0 : Int) ≤ n.toNat ∧ (n.toNat : Int) < UInt32.size :=
    ⟨by omega, by exact_mod_cast n.toNat_lt⟩
  simp only [Record.Weak.wordOf?, if_pos hrange, Int.toNat_natCast]
  exact congrArg some UInt32.ofNat_toNat

theorem number_of_wordOf? {num : Json.Number} {n : UInt32}
    (h : Record.Weak.wordOf? num = some n) :
    Record.Weak.number (.number num) = .ok (some n) := by
  simp only [Record.Weak.number, h]

theorem number_numberJson (n : UInt32) : Record.Weak.number (numberJson n) = .ok (some n) :=
  number_of_wordOf? (wordOf?_integer n)

/-- A word is read from its digits, with blanks around them. -/
theorem number_text {before after : List Char} (hbefore : ∀ c ∈ before, Text.isBlank c = true)
    (hafter : ∀ c ∈ after, Text.isBlank c = true) (n : UInt32) :
    Record.Weak.number (.text (String.ofList (before ++ Nat.toDigits 10 n.toNat ++ after))) =
      .ok (some n) := by
  simp only [Record.Weak.number, Text.trim_blanks (isSolid_toDigits n.toNat) hbefore hafter,
    ofList_toDigits, if_neg (toString_ne_empty n.toNat), Number.readWord32_toString]

theorem number_toString (n : UInt32) :
    Record.Weak.number (.text (toString n.toNat)) = .ok (some n) := by
  have hnone : ∀ c ∈ ([] : List Char), Text.isBlank c = true := nofun
  have h := number_text hnone hnone n
  rwa [List.nil_append, List.append_nil, ofList_toDigits] at h

theorem isBlankText_toString (n : Nat) : Text.isBlankText (toString n) = false := by
  obtain ⟨d, ds, hd, hdigit⟩ := Json.exists_toDigits_eq_cons n
  rw [← ofList_toDigits, hd]
  exact Text.isBlankText_of_mem (c := d) (by simp) (Text.isBlank_of_isDigit hdigit)

/-- What is not blank is converted. -/
theorem nonBlank_eq_ok_of {α : Type} {convert : Json → Except DataError α} {v : Json} {a : α}
    (hblank : ∀ s, v = .text s → Text.isBlankText s = false) (h : convert v = .ok a)
    (hnull : v ≠ .null) : nonBlank convert v = .ok (some a) := by
  unfold nonBlank
  split
  · exact absurd rfl hnull
  · next s => rw [hblank s rfl, h]; rfl
  · rw [h]; rfl

theorem nonBlank_text {α : Type} {convert : Json → Except DataError α} {s : String} {a : α}
    (hblank : Text.isBlankText s = false) (h : convert (.text s) = .ok a) :
    nonBlank convert (.text s) = .ok (some a) :=
  nonBlank_eq_ok_of (fun t ht => by rwa [← Json.text.inj ht]) h nofun

/-- What was converted was there. -/
theorem nonBlank_eq_ok_some {α : Type} {convert : Json → Except DataError α} {v : Json} {a : α}
    (h : nonBlank convert v = .ok (some a)) :
    convert v = .ok a ∧ ∀ t, v = .text t → Text.isBlankText t = false := by
  unfold nonBlank at h
  split at h
  · cases h
  · next s =>
    split at h
    · cases h
    · next hblank =>
      obtain ⟨b, hb, hsome⟩ := map_eq_ok_iff.mp h
      obtain rfl := Option.some.inj hsome
      refine ⟨hb, fun t ht => ?_⟩
      obtain rfl := Json.text.inj ht
      simpa using hblank
  · next v _ htext =>
    obtain ⟨b, hb, hsome⟩ := map_eq_ok_iff.mp h
    obtain rfl := Option.some.inj hsome
    exact ⟨hb, fun t ht => absurd ht (htext t)⟩

theorem weakRead_eq_ok_iff {α : Type} {convert : Json → Except DataError α} {depth : Nat}
    {o : Outline} {a : α} : Record.Weak.read convert depth o = .ok a ↔
      ∃ v, o.readValue depth = .ok v ∧ convert v = .ok a := by
  rw [Record.Weak.read, bind_eq_ok_iff]
  refine exists_congr fun v => and_congr_right fun _ => ?_
  cases convert v <;> simp

/-! ## Settings -/

/-- The value has no other spelling than its own, and a leap second is counted from second 59. -/
def Setting.IsProper : (s : Setting) → s.Val → Prop
  | .text, _ => True
  | .number, _ => True
  | .flag, _ => True
  | .instant, t => t.clock.IsRegular
  | .directorType, d => ∃ n, d = .ofCode n
  | .conditionType, c => ConditionType.spelling.IsProper c
  | .redundancy, r => Redundancy.spelling.IsProper r

/-- A time lies in a year of four digits. -/
def Setting.InYears : (s : Setting) → s.Val → Prop
  | .text, _ => True
  | .number, _ => True
  | .flag, _ => True
  | .instant, t => t.date.HasFourDigits
  | .directorType, _ => True
  | .conditionType, _ => True
  | .redundancy, _ => True

/-- A time is read from a text, without the blanks at its two ends. -/
theorem exists_read_of_readInstant {o : Outline} {t : Calendar.Instant}
    (h : readInstant o = .ok (some t)) : ∃ s, Calendar.Timestamp.read (Text.trim s) = .ok t := by
  obtain ⟨found, -, h⟩ := bind_eq_ok_iff.mp h
  split at h
  · cases h
  · next s =>
    split at h
    · cases h
    split at h
    · next u hu =>
      obtain rfl := Option.some.inj (Except.ok.inj h)
      exact ⟨s, hu⟩
    · cases h

theorem isProper_of_readInstant {o : Outline} {t : Calendar.Instant}
    (h : readInstant o = .ok (some t)) : t.clock.IsRegular := by
  obtain ⟨s, hs⟩ := exists_read_of_readInstant h
  exact Calendar.Timestamp.isRegular_of_read hs

/-- A setting that was read is proper. -/
theorem Setting.isProper_of_read {s : Setting} {depth : Nat} {o : Outline} {x : s.Val}
    (h : s.read depth o = .ok (some x)) : s.IsProper x := by
  cases s with
  | text => trivial
  | number => trivial
  | flag => trivial
  | instant => exact isProper_of_readInstant h
  | directorType =>
    obtain ⟨v, -, hv⟩ := weakRead_eq_ok_iff.mp h
    obtain ⟨n, -, hn⟩ := map_eq_ok_iff.mp (nonBlank_eq_ok_some hv).1
    exact ⟨n.getD 0, hn.symm⟩
  | conditionType =>
    obtain ⟨v, -, hv⟩ := weakRead_eq_ok_iff.mp h
    obtain ⟨hc, hblank⟩ := nonBlank_eq_ok_some hv
    exact ConditionType.isFaithful.isProper_of_ofJson hc hblank
  | redundancy =>
    obtain ⟨v, -, hv⟩ := weakRead_eq_ok_iff.mp h
    obtain ⟨hr, hblank⟩ := nonBlank_eq_ok_some hv
    exact Redundancy.isFaithful.isProper_of_ofJson hr hblank

theorem isBlank_of_isStampChar {c : Char} (h : Calendar.Timestamp.isStampChar c = true) :
    Text.isBlank c = false := by
  simp only [Calendar.Timestamp.isStampChar, Bool.or_eq_true, beq_iff_eq] at h
  rcases h with (((((hdigit | rfl) | rfl) | rfl) | rfl) | rfl) | rfl
  · exact Text.isBlank_of_isDigit hdigit
  all_goals decide

/-- A written time has no blanks to lose, so it is read as a timestamp as it stands. -/
theorem readInstant_text_write (t : Calendar.Instant) :
    readInstant (.atom (.text (Calendar.Timestamp.write t))) =
      match Calendar.Timestamp.read (Calendar.Timestamp.write t) with
      | .ok u => .ok (some u)
      | .error f => .error (.data (.badTimestamp (Calendar.Timestamp.write t) f)) := by
  have hsolid : Text.IsSolid (Calendar.Timestamp.write t).toList := fun c hc =>
    isBlank_of_isStampChar (List.all_eq_true.mp (Calendar.Timestamp.all_write t) c hc)
  have htrim : Text.trim (Calendar.Timestamp.write t) = Calendar.Timestamp.write t := by
    have h := Text.trim_of_isSolid hsolid
    rwa [String.ofList_toList] at h
  have hblank : Text.isBlankText (Calendar.Timestamp.write t) = false := by
    obtain ⟨c, cs, hcs⟩ := List.exists_cons_of_ne_nil (Calendar.Timestamp.write_ne_nil t)
    exact Text.isBlankText_of_mem (c := c) (by simp [hcs]) (hsolid c (by simp [hcs]))
  have hfound : (Outline.atom (.text (Calendar.Timestamp.write t))).readOption (·.readText) =
      .ok (some (Calendar.Timestamp.write t)) := rfl
  simp only [readInstant, hfound, bind, Except.bind, hblank, htrim]
  rfl

theorem readInstant_write {t : Calendar.Instant} (hyears : t.date.HasFourDigits)
    (hregular : t.clock.IsRegular) :
    readInstant (.atom (.text (Calendar.Timestamp.write t))) = .ok (some t) := by
  rw [readInstant_text_write, Calendar.Timestamp.read_write hyears hregular]

/-- A setting is read from what was written of it. -/
theorem Setting.read_write {s : Setting} {x : s.Val} (hproper : s.IsProper x)
    (hyears : s.InYears x) (depth : Nat) : s.read depth (.ofJson (s.write x)) = .ok (some x) := by
  cases s with
  | text => rfl
  | number => exact weakRead_eq_ok_iff.mpr ⟨_, Json.readValue_number .., number_numberJson x⟩
  | flag => exact weakRead_eq_ok_iff.mpr ⟨_, Json.readValue_bool .., rfl⟩
  | instant => exact readInstant_write hyears hproper
  | directorType =>
    have hcode : directorTypeOf (numberJson x.code) = .ok x := by
      rw [directorTypeOf, number_numberJson]
      exact congrArg Except.ok (DirectorType.ofCode_code hproper)
    refine weakRead_eq_ok_iff.mpr ⟨_, Json.readValue_number .., ?_⟩
    show (directorTypeOf (numberJson x.code)).map some = _
    rw [hcode]
    rfl
  | conditionType =>
    obtain ⟨hc, hblank⟩ := ConditionType.ofText_text hproper
    refine weakRead_eq_ok_iff.mpr ⟨_, Json.readValue_text .., nonBlank_text hblank ?_⟩
    exact congrArg Except.ok hc
  | redundancy =>
    obtain ⟨hr, hblank⟩ := Redundancy.ofText_text hproper
    refine weakRead_eq_ok_iff.mpr ⟨_, Json.readValue_text .., nonBlank_text hblank ?_⟩
    exact congrArg Except.ok hr

/-- Null is no value of a setting. -/
theorem Setting.read_null (s : Setting) (depth : Nat) : s.read depth (.atom .null) = .ok none := by
  cases s with
  | text => rfl
  | number => exact weakRead_eq_ok_iff.mpr ⟨_, Json.readValue_null .., rfl⟩
  | flag => exact weakRead_eq_ok_iff.mpr ⟨_, Json.readValue_null .., rfl⟩
  | instant => rfl
  | directorType => exact weakRead_eq_ok_iff.mpr ⟨_, Json.readValue_null .., rfl⟩
  | conditionType => exact weakRead_eq_ok_iff.mpr ⟨_, Json.readValue_null .., rfl⟩
  | redundancy => exact weakRead_eq_ok_iff.mpr ⟨_, Json.readValue_null .., rfl⟩

theorem Setting.isExact_write (s : Setting) (x : s.Val) : (s.write x).IsExact := by
  have hword (n : UInt32) : (numberJson n).IsExact :=
    .number (Nat.lt_trans n.toNat_lt (by decide))
  cases s with
  | text => exact .text x
  | number => exact hword x
  | flag => exact .bool x
  | instant => exact .text _
  | directorType => exact hword x.code
  | conditionType => exact .text x.text
  | redundancy => exact .text x.text

/-! ## Fields -/

/-- A setting is proper if it is there. -/
def Scalar.IsProper : (k : Scalar) → k.Val → Prop
  | .optional s, some x => s.IsProper x
  | .optional _, none => True
  | .plainText, _ => True
  | .weak _, _ => True
  | .texts, _ => True

/-- A time that is there lies in a year of four digits. -/
def Scalar.InYears : (k : Scalar) → k.Val → Prop
  | .optional s, some x => s.InYears x
  | .optional _, none => True
  | .plainText, _ => True
  | .weak _, _ => True
  | .texts, _ => True

theorem Scalar.isProper_of_isRead {k : Scalar} {x : k.Val} (h : IsRead k x) : k.IsProper x := by
  cases k with
  | plainText => trivial
  | weak w => trivial
  | texts => trivial
  | optional s =>
    cases x with
    | none => trivial
    | some x =>
      rcases h with hdefault | ⟨depth, o, hread⟩
      · exact absurd (Option.some.inj hdefault) nofun
      · exact Setting.isProper_of_read hread

/-- What a weakly typed scalar makes of a value, nothing standing for its absence. -/
def Weak.convert : (w : Weak) → Json → Except DataError (Option w.Val)
  | .text => Record.Weak.text
  | .number => Record.Weak.number
  | .flag => Record.Weak.flag

/-- A weakly typed scalar is what its value is converted to, or its default. -/
theorem Weak.read_eq_ok_iff {w : Weak} {depth : Nat} {o : Outline} {x : w.Val} :
    w.read depth o = .ok x ↔
      ∃ v, o.readValue depth = .ok v ∧ ∃ x?, w.convert v = .ok x? ∧ x?.getD w.default = x := by
  have hread : w.read depth o = (Record.Weak.read w.convert depth o).map (·.getD w.default) := by
    cases w <;> rfl
  rw [hread, map_eq_ok_iff]
  simp only [weakRead_eq_ok_iff]
  constructor
  · rintro ⟨x?, ⟨v, hv, hx⟩, hdefault⟩
    exact ⟨v, hv, x?, hx, hdefault⟩
  · rintro ⟨v, hv, x?, hx, hdefault⟩
    exact ⟨x?, ⟨v, hv, hx⟩, hdefault⟩

/-- A weakly typed scalar is read from what was written of it. -/
theorem Weak.read_write (w : Weak) (x : w.Val) (depth : Nat) :
    w.read depth (.ofJson (w.write x)) = .ok x := by
  apply Weak.read_eq_ok_iff.mpr
  cases w with
  | text => exact ⟨_, Json.readValue_text .., some x, rfl, rfl⟩
  | number => exact ⟨_, Json.readValue_number .., some x, number_numberJson x, rfl⟩
  | flag => exact ⟨_, Json.readValue_bool .., some x, rfl, rfl⟩

/-- A field is read from what was written of it. -/
theorem Scalar.rereads {k : Scalar} {x : k.Val} (hproper : k.IsProper x) (hyears : k.InYears x)
    (depth : Nat) : Rereads (depth + 1) k x := by
  cases k with
  | plainText => rfl
  | weak w => exact w.read_write x (depth + 1)
  | optional s =>
    cases x with
    | none => exact s.read_null (depth + 1)
    | some x => exact Setting.read_write hproper hyears (depth + 1)
  | texts =>
    show (Outline.ofJson (.list (x.map .text))).readListOrNull (depth + 1) _ = .ok x
    exact Json.readListOrNull_ofJson fun _ _ => rfl

theorem Scalar.isExact_write (k : Scalar) (x : k.Val) : (k.write x).IsExact := by
  cases k with
  | plainText => exact .text x
  | weak w =>
    cases w with
    | text => exact .text x
    | number => exact .number (Nat.lt_trans x.toNat_lt (by decide))
    | flag => exact .bool x
  | optional s =>
    cases x with
    | none => exact .null
    | some x => exact s.isExact_write x
  | texts =>
    refine .list fun v hv => ?_
    obtain ⟨t, -, rfl⟩ := List.mem_map.mp hv
    exact .text t

/-! ## Fields of services -/

/-- Every time of the version lies in a year of four digits. -/
def Version.InYears (v : Version) : Prop := Row.Forall (fun f x => f.kind.InYears x) v

/-- Every time of the field lies in a year of four digits. -/
def ServiceKind.InYears : (k : ServiceKind) → k.Val → Prop
  | .scalar k, x => k.InYears x
  | .version, none => True
  | .version, some v => v.InYears
  | .versions, vs => ∀ version ∈ vs, Version.InYears version

/-- Every field of the version is proper. -/
def Version.IsProper (v : Version) : Prop := Row.Forall (fun f x => f.kind.IsProper x) v

/-- Every setting of the field is proper. -/
def ServiceKind.IsProper : (k : ServiceKind) → k.Val → Prop
  | .scalar k, x => k.IsProper x
  | .version, none => True
  | .version, some v => v.IsProper
  | .versions, vs => ∀ version ∈ vs, Version.IsProper version

theorem distinct_versionSchema : Record.Distinct versionSchema.fields := by decide

theorem Version.isProper_of_read {depth : Nat} {o : Outline} {v : Version}
    (h : versionSchema.read depth o = .ok v) : v.IsProper :=
  (Schema.forall_isRead distinct_versionSchema h).imp fun _ _ _ hx => Scalar.isProper_of_isRead hx

theorem ServiceKind.isProper_of_isRead {k : ServiceKind} {x : k.Val} (h : IsRead k x) :
    k.IsProper x := by
  cases k with
  | scalar k =>
    rcases h with hdefault | hread
    · exact Scalar.isProper_of_isRead (.inl hdefault)
    · exact Scalar.isProper_of_isRead (.inr hread)
  | version =>
    rcases h with hdefault | ⟨depth, o, hread⟩
    · obtain rfl : none = x := Option.some.inj hdefault
      trivial
    · rcases Json.readOption_eq_ok_iff.mp hread with ⟨-, rfl⟩ | ⟨-, version, hversion, rfl⟩
      · trivial
      · exact Version.isProper_of_read hversion
  | versions =>
    rcases h with hdefault | ⟨depth, o, hread⟩
    · obtain rfl : [] = x := Option.some.inj hdefault
      exact nofun
    · intro version hversion
      obtain ⟨d, p, hp⟩ := Json.exists_read_of_readListOrNull hread version hversion
      exact Version.isProper_of_read hp

/-- A version is read from what was written of it. -/
theorem Version.read_toJson {v : Version} (hproper : v.IsProper) (hyears : v.InYears)
    (depth : Nat) : versionSchema.read (depth + 2) (.ofJson v.toJson) = .ok v := by
  have hfields := hproper.and hyears
  exact Schema.read_toJson distinct_versionSchema
    (hfields.imp fun f _ x hx => Scalar.rereads hx.1 hx.2 depth)

/-- A field of a service is read from what was written of it. -/
theorem ServiceKind.rereads {k : ServiceKind} {x : k.Val} (hproper : k.IsProper x)
    (hyears : k.InYears x) (depth : Nat) : Rereads (depth + 3) k x := by
  cases k with
  | scalar k => exact Scalar.rereads hproper hyears (depth + 2)
  | version =>
    cases x with
    | none => rfl
    | some v =>
      have hread := Version.read_toJson hproper hyears (depth + 1)
      have hobject : Outline.ofJson v.toJson ≠ .atom .null := by
        rw [Row.toJson, Json.ofMembers, Outline.ofJson]
        exact Outline.noConfusion
      exact Json.readOption_eq_ok_iff.mpr (.inr ⟨hobject, v, hread, rfl⟩)
  | versions =>
    show (Outline.ofJson (.list (x.map Row.toJson))).readListOrNull (depth + 3) _ = .ok x
    exact Json.readListOrNull_ofJson fun v hv =>
      Version.read_toJson (hproper v hv) (hyears v hv) depth

theorem Version.isExact_toJson (v : Version) : v.toJson.IsExact := by
  have hfields : Row.Forall (fun f x => (f.kind.write x).IsExact) v :=
    Row.forall_of (fun f x => f.kind.isExact_write x) v
  exact Row.isExact_toJson distinct_versionSchema hfields

theorem ServiceKind.isExact_write (k : ServiceKind) (x : k.Val) : (k.write x).IsExact := by
  cases k with
  | scalar k => exact k.isExact_write x
  | version =>
    cases x with
    | none => exact .null
    | some v => exact Version.isExact_toJson v
  | versions =>
    refine .list fun j hj => ?_
    obtain ⟨v, -, rfl⟩ := List.mem_map.mp hj
    exact Version.isExact_toJson v

end EdgeConsole.Resource
