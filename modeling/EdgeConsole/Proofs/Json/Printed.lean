import EdgeConsole.Json.Reading
import EdgeConsole.Proofs.Number.Digits

/-!
# Reading what was printed

The outline of a printed value is the value itself, in either layout (`ofText_compact` and
`ofText_pretty`). The printers write no exponents, so the scan never has a choice; it only has to
stop where a number ends, and that is the one thing asked of the text that follows (`EndsNumber`).
The blanks of the second layout stand where any value may have them: what the scan finds in a text
(`Scans`) is put together from its parts, with blanks before or behind them.

Numbers are a matter of their own: this module reads back natural numbers of 64 bits (`IsExact`),
which are all the numbers that records hold.
-/

namespace EdgeConsole.Json

/-! ## Values as outlines -/

mutual

/-- The outline of a value. -/
def Outline.ofJson : Json → Outline
  | .null => .atom .null
  | .bool b => .atom (.bool b)
  | .number n => .atom (.number n)
  | .text s => .atom (.text s)
  | .list items => .list (ofItems items) none
  | .object members => .object (ofMembers members) none

/-- The outlines of the items of a list. -/
def Outline.ofItems : List Json → List Outline
  | [] => []
  | v :: rest => .ofJson v :: ofItems rest

/-- The outlines of the members of an object. -/
def Outline.ofMembers : List (String × Json) → List (Key × Outline)
  | [] => []
  | (name, v) :: rest => (.text name, .ofJson v) :: ofMembers rest

end

theorem Outline.ofMembers_eq (members : List (String × Json)) :
    ofMembers members = members.map fun m => (.text m.1, ofJson m.2) := by
  induction members with
  | nil => rfl
  | cons m rest ih => rw [ofMembers, ih, List.map_cons]

/-- All numbers of the value are natural numbers of 64 bits. -/
inductive IsExact : Json → Prop
  | null : IsExact .null
  | bool (b : Bool) : IsExact (.bool b)
  | number {n : Nat} (h : n < UInt64.size) : IsExact (.number (.integer n))
  | text (s : String) : IsExact (.text s)
  | list {items : List Json} (h : ∀ v ∈ items, IsExact v) : IsExact (.list items)
  | object {members : List (String × Json)} (h : ∀ m ∈ members, IsExact m.2) :
      IsExact (.object members)

/-! ## Strings -/

theorem hex4?_control : ∀ n < 0x20,
    hex4? '0' '0' (hexDigitLower (n / 16)) (hexDigitLower (n % 16)) = some n := by
  decide

/-- A control character is escaped by its code point. -/
theorem readString_codePoint {n : Nat} (h : n < 0x20) (cs : List Char) :
    readString (['\\', 'u', '0', '0', hexDigitLower (n / 16), hexDigitLower (n % 16)] ++ cs) =
      (readString cs).map fun (s, after) => (Char.ofNat n :: s, after) := by
  have hlow : ¬(0xDC00 ≤ n ∧ n ≤ 0xDFFF) := by omega
  have hhigh : n < 0xD800 ∨ 0xDBFF < n := by omega
  simp only [List.cons_append, List.nil_append, readString, hex4?_control n h, if_neg hlow,
    if_pos hhigh]

/-- An escaped character is read as that character. -/
theorem readString_escapeChar (c : Char) (cs : List Char) :
    readString (escapeChar c ++ cs) = (readString cs).map fun (s, after) => (c :: s, after) := by
  unfold escapeChar
  -- the characters that have an escape of their own
  iterate 7
    split
    · next h => subst h; rfl
  split
  · next h => rw [readString_codePoint h, Char.ofNat_toNat]
  · next hquote hback _ _ _ _ _ hcontrol =>
    rw [List.cons_append, List.nil_append, readString, if_neg hcontrol]
    · exact hquote
    all_goals
      intros
      exact hback (by assumption)

/-- A string is read from its printed form. -/
theorem readString_flatMap_escapeChar (cs rest : List Char) :
    readString (cs.flatMap escapeChar ++ '"' :: rest) = .ok (cs, rest) := by
  induction cs with
  | nil => rfl
  | cons c cs ih =>
    rw [List.flatMap_cons, List.append_assoc, readString_escapeChar, ih]
    rfl

theorem textChars_append (s : String) (rest : List Char) :
    textChars s ++ rest = '"' :: (s.toList.flatMap escapeChar ++ '"' :: rest) := by
  simp [textChars]

theorem scanString_flatMap_escapeChar (s : String) (rest : List Char) :
    scanString (s.toList.flatMap escapeChar ++ '"' :: rest) = (.text s, some rest) := by
  simp [scanString, readString_flatMap_escapeChar]

/-! ## Numbers -/

/-- The text does not go on with anything that belongs to a number. -/
def EndsNumber (rest : List Char) : Prop :=
  ∀ c ∈ rest.head?, c.isDigit = false ∧ c ≠ '.' ∧ c ≠ 'e' ∧ c ≠ 'E'

theorem EndsNumber.cons {c : Char} (h : c.isDigit = false ∧ c ≠ '.' ∧ c ≠ 'e' ∧ c ≠ 'E')
    (rest : List Char) : EndsNumber (c :: rest) := by
  rintro d hd
  obtain rfl := Option.some.inj hd
  exact h

theorem spanDigits_append {ds rest : List Char} (hds : ∀ c ∈ ds, c.isDigit = true)
    (hrest : EndsNumber rest) : spanDigits (ds ++ rest) = (ds, rest) := by
  have hstop : rest.takeWhile Char.isDigit = [] ∧ rest.dropWhile Char.isDigit = rest := by
    cases rest with
    | nil => exact ⟨rfl, rfl⟩
    | cons c cs => simp [(hrest c rfl).1]
  rw [spanDigits, List.takeWhile_append_of_pos hds, List.dropWhile_append_of_pos hds, hstop.1,
    hstop.2, List.append_nil]

/-- The digits of a number have no zero in front, unless they are that zero. -/
theorem toDigits_ne_zero_cons (n : Nat) (c : Char) (cs : List Char) :
    Nat.toDigits 10 n ≠ '0' :: c :: cs := by
  have hhead : ∀ n, 0 < n → ∀ d ds, Nat.toDigits 10 n = d :: ds → d ≠ '0' := by
    intro n
    induction n using Nat.strongRecOn with
    | ind n ih =>
      intro hn d ds hd
      rcases Nat.lt_or_ge n 10 with hlt | hge
      · rw [Nat.toDigits_of_lt_base hlt] at hd
        obtain ⟨rfl, -⟩ := List.cons.inj hd
        exact fun h => absurd (Nat.digitChar_eq_zero.mp h) (by omega)
      · rw [Nat.toDigits_of_base_le (by decide) hge] at hd
        cases hfront : Nat.toDigits 10 (n / 10) with
        | nil => exact absurd hfront Nat.toDigits_ne_nil
        | cons e es =>
          rw [hfront] at hd
          obtain ⟨rfl, -⟩ := List.cons.inj hd
          exact ih (n / 10) (by omega) (by omega) e es hfront
  intro h
  rcases Nat.eq_zero_or_pos n with rfl | hn
  · rw [Nat.toDigits_zero] at h
    exact absurd (List.cons.inj h).2 (by simp)
  · exact hhead n hn _ _ h rfl

theorem readWhole_toDigits {n : Nat} {rest : List Char} (hrest : EndsNumber rest) :
    readWhole (Nat.toDigits 10 n ++ rest) = .ok (Nat.toDigits 10 n, rest) := by
  have hspan := spanDigits_append (fun c hc => Number.isDigit_of_mem_toDigits (n := n) hc) hrest
  unfold readWhole
  rw [hspan]
  split
  · next h => exact absurd (congrArg Prod.fst h) Nat.toDigits_ne_nil
  · next h => exact absurd (congrArg Prod.fst h) (toDigits_ne_zero_cons n _ _)
  · rfl

theorem readFraction_of_endsNumber {rest : List Char} (h : EndsNumber rest) :
    readFraction rest = .ok (none, rest) := by
  cases rest with
  | nil => rfl
  | cons c cs =>
    rw [readFraction]
    rintro ds hds
    exact (h c rfl).2.1 (List.cons.inj hds).1

theorem readExponent_of_endsNumber {rest : List Char} (h : EndsNumber rest) :
    readExponent rest = .ok (none, rest) := by
  cases rest with
  | nil => rfl
  | cons c cs =>
    have hc := h c rfl
    rw [readExponent, if_neg (by simp [hc.2.2])]

/-- The digits of a number are a literal of their own. -/
theorem readLiteral_toDigits {n : Nat} {rest : List Char} (hrest : EndsNumber rest) :
    readLiteral (Nat.toDigits 10 n ++ rest) =
      .ok (⟨false, Nat.toDigits 10 n, none, none⟩, rest) := by
  have hsign : ∀ cs, Nat.toDigits 10 n ++ rest ≠ '-' :: cs := by
    intro cs h
    cases hdigits : Nat.toDigits 10 n with
    | nil => exact Nat.toDigits_ne_nil hdigits
    | cons d ds =>
      rw [hdigits] at h
      have hdigit := Number.isDigit_of_mem_toDigits (n := n) (c := d) (by simp [hdigits])
      rw [(List.cons.inj h).1] at hdigit
      exact absurd hdigit (by decide)
  unfold readLiteral
  split
  next hread =>
  split at hread
  · next h => exact absurd h (hsign _)
  · obtain ⟨rfl, rfl⟩ := Prod.mk.inj hread
    simp only [bind, Except.bind, readWhole_toDigits hrest, readFraction_of_endsNumber hrest,
      readExponent_of_endsNumber hrest]
    rfl

/-- A number of 64 bits is read from its digits. -/
theorem scanNumber_toDigits {n : Nat} (h : n < UInt64.size) {rest : List Char}
    (hrest : EndsNumber rest) :
    scanNumber (Nat.toDigits 10 n ++ rest) = (.atom (.number (.integer n)), some rest) := by
  simp only [scanNumber, readLiteral_toDigits hrest, value?_toDigits h]

/-! ## Blanks -/

theorem ne_of_isDigit {c d : Char} (hc : c.isDigit = true) (hd : d.isDigit = false) : c ≠ d := by
  rintro rfl
  rw [hc] at hd
  exact Bool.noConfusion hd

theorem isSpace_of_isDigit {c : Char} (h : c.isDigit = true) : isSpace c = false := by
  have hne (d : Char) (hd : d.isDigit = false) : (c == d) = false :=
    beq_false_of_ne (ne_of_isDigit h hd)
  simp only [isSpace, hne ' ' rfl, hne '\n' rfl, hne '\t' rfl, hne '\r' rfl, Bool.or_self]

theorem dropSpace_cons {c : Char} (h : isSpace c = false) (cs : List Char) :
    dropSpace (c :: cs) = c :: cs := by
  simp [dropSpace, h]

/-- The text is made of blanks. -/
def IsSpaces (blanks : List Char) : Prop := ∀ c ∈ blanks, isSpace c = true

theorem isSpaces_nil : IsSpaces [] := List.forall_mem_nil _

theorem isSpaces_newline (level : Nat) : IsSpaces (newline level) := by
  intro c hc
  rcases List.mem_cons.mp hc with rfl | hc
  · rfl
  · rw [List.eq_of_mem_replicate hc]
    rfl

theorem dropSpace_append {blanks : List Char} (h : IsSpaces blanks) (cs : List Char) :
    dropSpace (blanks ++ cs) = dropSpace cs :=
  List.dropWhile_append_of_pos h

/-- Blanks in front of a value are passed over. -/
theorem scan_append_of_isSpaces {blanks : List Char} (h : IsSpaces blanks) (fuel : Nat)
    (cs : List Char) : Outline.scan fuel (blanks ++ cs) = Outline.scan fuel cs := by
  cases fuel with
  | zero => rfl
  | succ fuel => rw [Outline.scan, Outline.scan, dropSpace_append h]

/-- A number ends before a blank. -/
theorem EndsNumber.append {blanks : List Char} (h : IsSpaces blanks) {rest : List Char}
    (hrest : EndsNumber rest) : EndsNumber (blanks ++ rest) := by
  cases blanks with
  | nil => exact hrest
  | cons c cs =>
    have hc : isSpace c = true := h c List.mem_cons_self
    simp only [isSpace, Bool.or_eq_true, beq_iff_eq] at hc
    rcases hc with ((rfl | rfl) | rfl) | rfl <;> exact .cons (by decide) _

/-! ## Texts that hold a value -/

/-- The scan finds the value in the text, given steps enough, and leaves what follows. -/
def Scans (text : List Char) (v : Json) : Prop :=
  ∀ (fuel : Nat) (rest : List Char), 2 * text.length ≤ fuel → EndsNumber rest →
    Outline.scan fuel (text ++ rest) = (.ofJson v, some rest)

/-- The scan finds the items in the text up to the bracket that closes their list. -/
def ScansItems (text : List Char) (items : List Json) : Prop :=
  ∀ (fuel : Nat) (rest : List Char), 2 * text.length < fuel →
    scanItems fuel (text ++ ']' :: rest) = (Outline.ofItems items, none, some rest)

/-- The scan finds the members in the text up to the brace that closes their object. -/
def ScansMembers (text : List Char) (members : List (String × Json)) : Prop :=
  ∀ (fuel : Nat) (rest : List Char), 2 * text.length < fuel →
    scanMembers fuel (text ++ '\x7d' :: rest) = (Outline.ofMembers members, none, some rest)

theorem Scans.of_isSpaces {blanks text : List Char} {v : Json} (hblanks : IsSpaces blanks)
    (h : Scans text v) : Scans (blanks ++ text) v := by
  intro fuel rest hfuel hrest
  rw [List.length_append] at hfuel
  rw [List.append_assoc, scan_append_of_isSpaces hblanks]
  exact h fuel rest (by omega) hrest

/-- The scan of a text with characters takes a step. -/
theorem Scans.of_succ {c : Char} {cs : List Char} {v : Json}
    (h : ∀ (fuel : Nat) (rest : List Char), 2 * cs.length < fuel → EndsNumber rest →
      Outline.scan (fuel + 1) (c :: (cs ++ rest)) = (.ofJson v, some rest)) :
    Scans (c :: cs) v := by
  intro fuel rest hfuel hrest
  rw [List.length_cons] at hfuel
  obtain ⟨fuel, rfl⟩ : ∃ f, fuel = f + 1 := ⟨fuel - 1, by omega⟩
  exact h fuel rest (by omega) hrest

theorem scans_null : Scans ['n', 'u', 'l', 'l'] .null :=
  .of_succ fun _ _ _ _ => rfl

theorem scans_bool (b : Bool) : Scans (boolChars b) (.bool b) := by
  cases b <;> exact .of_succ fun _ _ _ _ => rfl

theorem scans_text (s : String) : Scans (textChars s) (.text s) := by
  have hchars : textChars s = '"' :: (s.toList.flatMap escapeChar ++ ['"']) := by
    simpa using textChars_append s []
  rw [hchars]
  refine .of_succ fun fuel rest _ _ => ?_
  rw [Outline.scan, dropSpace_cons (show isSpace '"' = false from rfl), List.append_assoc]
  simp only [if_true, List.singleton_append, scanString_flatMap_escapeChar, Outline.ofJson]

theorem exists_toDigits_eq_cons (n : Nat) :
    ∃ d ds, Nat.toDigits 10 n = d :: ds ∧ d.isDigit = true := by
  obtain ⟨d, ds, h⟩ := List.exists_cons_of_ne_nil (Nat.toDigits_ne_nil (n := n) (b := 10))
  exact ⟨d, ds, h, Number.isDigit_of_mem_toDigits (n := n) (by simp [h])⟩

theorem chars_integer (n : Nat) : (Number.integer n).chars .plus = Nat.toDigits 10 n := by
  simp [Number.chars]

theorem scans_number {n : Nat} (h : n < UInt64.size) :
    Scans ((Number.integer n).chars .plus) (.number (.integer n)) := by
  obtain ⟨d, ds, hdigits, hd⟩ := exists_toDigits_eq_cons n
  rw [chars_integer, hdigits]
  refine .of_succ fun fuel rest _ hrest => ?_
  have hscan := scanNumber_toDigits h hrest
  have hne (c : Char) (hc : c.isDigit = false) : d ≠ c := ne_of_isDigit hd hc
  rw [hdigits, List.cons_append] at hscan
  rw [Outline.scan, dropSpace_cons (isSpace_of_isDigit hd)]
  simp only [hne '"' rfl, hne '[' rfl, hne '\x7b' rfl, hne 'n' rfl, hne 't' rfl, hne 'f' rfl,
    if_false, hd, Bool.or_true, if_true]
  exact hscan

/-! ## Lists and objects -/

section Parts

variable {text before after others : List Char} {v : Json} {items : List Json}
  {members : List (String × Json)}

/-- After the last item of a list comes its end. -/
theorem ScansItems.last (h : Scans text v) (hafter : IsSpaces after) :
    ScansItems (text ++ after) [v] := by
  intro fuel rest hfuel
  rw [List.length_append] at hfuel
  obtain ⟨fuel, rfl⟩ : ∃ f, fuel = f + 1 := ⟨fuel - 1, by omega⟩
  have hitem := h fuel (after ++ ']' :: rest) (by omega) (.append hafter (.cons (by decide) rest))
  rw [List.append_assoc, scanItems, hitem, Outline.ofItems, Outline.ofItems]
  simp [dropSpace_append hafter, dropSpace_cons (show isSpace ']' = false from rfl)]

/-- After any other item comes the next. -/
theorem ScansItems.cons (h : Scans text v) (hothers : ScansItems others items) :
    ScansItems (text ++ ',' :: others) (v :: items) := by
  intro fuel rest hfuel
  rw [List.length_append, List.length_cons] at hfuel
  obtain ⟨fuel, rfl⟩ : ∃ f, fuel = f + 1 := ⟨fuel - 1, by omega⟩
  have hitem := h fuel (',' :: (others ++ ']' :: rest)) (by omega) (.cons (by decide) _)
  have hitems := hothers fuel rest (by omega)
  rw [List.append_assoc, List.cons_append, scanItems, hitem, Outline.ofItems]
  simp [dropSpace_cons (show isSpace ',' = false from rfl), hitems]

/-- No item begins with the bracket that closes the list. -/
theorem ScansItems.ne_bracket (h : ScansItems text items) (rest after : List Char) :
    dropSpace (text ++ ']' :: rest) ≠ ']' :: after := by
  intro hdrop
  have hnone (fuel : Nat) : (scanItems fuel (text ++ ']' :: rest)).2.2 = none := by
    cases fuel with
    | zero => rfl
    | succ fuel =>
      have hscan : (Outline.scan fuel (text ++ ']' :: rest)).2 = none := by
        cases fuel with
        | zero => rfl
        | succ fuel =>
          rw [Outline.scan, hdrop]
          rfl
      rw [scanItems]
      split
      · rfl
      · next hsome => rw [hsome] at hscan; cases hscan
  have hsome := congrArg (·.2.2) (h (2 * text.length + 1) rest (Nat.lt_succ_self _))
  rw [hnone] at hsome
  cases hsome

theorem scans_list_nil : Scans ['[', ']'] (.list []) :=
  .of_succ fun _ _ _ _ => rfl

/-- A list is its items between brackets. -/
theorem Scans.list (h : ScansItems text items) : Scans ('[' :: (text ++ [']'])) (.list items) := by
  refine .of_succ fun fuel rest hfuel _ => ?_
  rw [List.length_append, List.length_singleton] at hfuel
  have hitems := h fuel rest (by omega)
  have hne := h.ne_bracket rest
  rw [List.append_assoc, List.singleton_append, Outline.scan,
    dropSpace_cons (show isSpace '[' = false from rfl), Outline.ofJson]
  -- `hne` keeps the scan from the branch of the empty list
  simp only [show ('[' = '"') = False by simp, if_false, if_true, hitems]

/-- After the last member of an object comes its end. -/
theorem ScansMembers.last (name : String) (hbefore : IsSpaces before) (h : Scans text v)
    (hafter : IsSpaces after) :
    ScansMembers (before ++ (textChars name ++ ':' :: (text ++ after))) [(name, v)] := by
  intro fuel rest hfuel
  simp only [List.length_append, List.length_cons] at hfuel
  obtain ⟨fuel, rfl⟩ : ∃ f, fuel = f + 1 := ⟨fuel - 1, by omega⟩
  have hvalue := h fuel (after ++ '\x7d' :: rest) (by omega)
    (.append hafter (.cons (by decide) rest))
  simp only [List.append_assoc, List.cons_append, textChars_append, scanMembers,
    dropSpace_append hbefore, dropSpace_cons (show isSpace '"' = false from rfl), if_true,
    scanString_flatMap_escapeChar, dropSpace_cons (show isSpace ':' = false from rfl), hvalue,
    dropSpace_append hafter, dropSpace_cons (show isSpace '\x7d' = false from rfl),
    Outline.ofMembers]

/-- After any other member comes the next. -/
theorem ScansMembers.cons (name : String) (hbefore : IsSpaces before) (h : Scans text v)
    (hothers : ScansMembers others members) :
    ScansMembers (before ++ (textChars name ++ ':' :: (text ++ ',' :: others)))
      ((name, v) :: members) := by
  intro fuel rest hfuel
  simp only [List.length_append, List.length_cons] at hfuel
  obtain ⟨fuel, rfl⟩ : ∃ f, fuel = f + 1 := ⟨fuel - 1, by omega⟩
  have hvalue := h fuel (',' :: (others ++ '\x7d' :: rest)) (by omega) (.cons (by decide) _)
  have hmembers := hothers fuel rest (by omega)
  simp only [List.append_assoc, List.cons_append, textChars_append, scanMembers,
    dropSpace_append hbefore, dropSpace_cons (show isSpace '"' = false from rfl), if_true,
    scanString_flatMap_escapeChar, dropSpace_cons (show isSpace ':' = false from rfl), hvalue,
    dropSpace_cons (show isSpace ',' = false from rfl), hmembers, Outline.ofMembers]
  simp

/-- No name begins with the brace that closes the object. -/
theorem ScansMembers.ne_brace (h : ScansMembers text members) (rest after : List Char) :
    dropSpace (text ++ '\x7d' :: rest) ≠ '\x7d' :: after := by
  intro hdrop
  have hnone (fuel : Nat) : (scanMembers fuel (text ++ '\x7d' :: rest)).2.2 = none := by
    cases fuel with
    | zero => rfl
    | succ fuel =>
      rw [scanMembers, hdrop]
      rfl
  have hsome := congrArg (·.2.2) (h (2 * text.length + 1) rest (Nat.lt_succ_self _))
  rw [hnone] at hsome
  cases hsome

theorem scans_object_nil : Scans ['\x7b', '\x7d'] (.object []) :=
  .of_succ fun _ _ _ _ => rfl

/-- An object is its members between braces. -/
theorem Scans.object (h : ScansMembers text members) :
    Scans ('\x7b' :: (text ++ ['\x7d'])) (.object members) := by
  refine .of_succ fun fuel rest hfuel _ => ?_
  rw [List.length_append, List.length_singleton] at hfuel
  have hmembers := h fuel rest (by omega)
  have hne := h.ne_brace rest
  rw [List.append_assoc, List.singleton_append, Outline.scan,
    dropSpace_cons (show isSpace '\x7b' = false from rfl), Outline.ofJson]
  -- and here `hne` from that of the empty object
  simp only [show ('\x7b' = '"') = False by simp, show ('\x7b' = '[') = False by simp, if_false,
    if_true, hmembers]

end Parts

/-! ## Both layouts -/

theorem scansItems_compactItems {items : List Json} (hne : items ≠ [])
    (h : ∀ v ∈ items, Scans v.compactChars v) : ScansItems (compactItems items) items := by
  induction items with
  | nil => exact absurd rfl hne
  | cons v items ih =>
    obtain ⟨hv, hrest⟩ := List.forall_mem_cons.mp h
    cases items with
    | nil =>
      have hlast := ScansItems.last hv isSpaces_nil
      rwa [List.append_nil] at hlast
    | cons w items =>
      rw [compactItems]
      · exact .cons hv (ih (List.cons_ne_nil _ _) hrest)
      · exact List.cons_ne_nil _ _

theorem scansMembers_compactMembers {members : List (String × Json)} (hne : members ≠ [])
    (h : ∀ m ∈ members, Scans m.2.compactChars m.2) :
    ScansMembers (compactMembers members) members := by
  induction members with
  | nil => exact absurd rfl hne
  | cons m members ih =>
    obtain ⟨name, v⟩ := m
    obtain ⟨hv, hrest⟩ := List.forall_mem_cons.mp h
    cases members with
    | nil =>
      have hlast := ScansMembers.last name isSpaces_nil hv isSpaces_nil
      rwa [List.nil_append, List.append_nil] at hlast
    | cons m members =>
      have hcons := ScansMembers.cons name isSpaces_nil hv
        (ih (List.cons_ne_nil _ _) hrest)
      rw [compactMembers]
      · simpa using hcons
      · exact List.cons_ne_nil _ _

/-- A value is found in its layout without blanks. -/
theorem scans_compactChars {v : Json} (hv : v.IsExact) : Scans v.compactChars v := by
  induction hv with
  | null => exact scans_null
  | bool b => exact scans_bool b
  | number h => exact scans_number h
  | text s => exact scans_text s
  | @list items _ ih =>
    cases items with
    | nil => exact scans_list_nil
    | cons v items => exact .list (scansItems_compactItems (List.cons_ne_nil _ _) ih)
  | @object members _ ih =>
    cases members with
    | nil => exact scans_object_nil
    | cons m members => exact .object (scansMembers_compactMembers (List.cons_ne_nil _ _) ih)

theorem scansItems_prettyItems {items : List Json} (hne : items ≠ []) {level : Nat}
    (h : ∀ v ∈ items, Scans (v.prettyChars level) v) {after : List Char} (hafter : IsSpaces after) :
    ScansItems (prettyItems level items ++ after) items := by
  induction items with
  | nil => exact absurd rfl hne
  | cons v items ih =>
    obtain ⟨hv, hrest⟩ := List.forall_mem_cons.mp h
    have hline := Scans.of_isSpaces (isSpaces_newline level) hv
    cases items with
    | nil => exact .last hline hafter
    | cons w items =>
      have hcons := ScansItems.cons hline (ih (List.cons_ne_nil _ _) hrest)
      rw [prettyItems]
      · simpa using hcons
      · exact List.cons_ne_nil _ _

theorem scansMembers_prettyMembers {members : List (String × Json)} (hne : members ≠ [])
    {level : Nat} (h : ∀ m ∈ members, Scans (m.2.prettyChars level) m.2) {after : List Char}
    (hafter : IsSpaces after) : ScansMembers (prettyMembers level members ++ after) members := by
  have hblank : IsSpaces [' '] := List.forall_mem_singleton.mpr rfl
  induction members with
  | nil => exact absurd rfl hne
  | cons m members ih =>
    obtain ⟨name, v⟩ := m
    obtain ⟨hv, hrest⟩ := List.forall_mem_cons.mp h
    have hvalue := Scans.of_isSpaces hblank hv
    cases members with
    | nil =>
      have hlast := ScansMembers.last name (isSpaces_newline level) hvalue hafter
      rw [prettyMembers]
      simpa using hlast
    | cons m members =>
      have hcons := ScansMembers.cons name (isSpaces_newline level) hvalue
        (ih (List.cons_ne_nil _ _) hrest)
      rw [prettyMembers]
      · simpa using hcons
      · exact List.cons_ne_nil _ _

/-- A value is found in its layout with a line for each item. -/
theorem scans_prettyChars {v : Json} (hv : v.IsExact) (level : Nat) :
    Scans (v.prettyChars level) v := by
  induction hv generalizing level with
  | null => exact scans_null
  | bool b => exact scans_bool b
  | number h => exact scans_number h
  | text s => exact scans_text s
  | @list items _ ih =>
    cases items with
    | nil => exact scans_list_nil
    | cons v items =>
      have hitems := scansItems_prettyItems (List.cons_ne_nil _ _)
        (fun w hw => ih w hw (level + 1)) (isSpaces_newline level)
      rw [prettyChars]
      · exact .list hitems
      · exact List.cons_ne_nil _ _
  | @object members _ ih =>
    cases members with
    | nil => exact scans_object_nil
    | cons m members =>
      have hmembers := scansMembers_prettyMembers (List.cons_ne_nil _ _)
        (fun w hw => ih w hw (level + 1)) (isSpaces_newline level)
      rw [prettyChars]
      · exact .object hmembers
      · exact List.cons_ne_nil _ _

/-! ## Whole texts -/

/-- The document of a text in which a value is found is that value and nothing else. -/
theorem Scans.ofText {text : List Char} {v : Json} (h : Scans text v) :
    Document.ofText (String.ofList text) = ⟨.ofJson v, true⟩ := by
  have hscan := h (2 * text.length + 1) [] (by omega) nofun
  rw [List.append_nil] at hscan
  simp only [Document.ofText, String.toList_ofList, hscan]
  rfl

theorem ofText_compact {v : Json} (hv : v.IsExact) :
    Document.ofText v.compact = ⟨.ofJson v, true⟩ :=
  (scans_compactChars hv).ofText

theorem ofText_pretty {v : Json} (hv : v.IsExact) :
    Document.ofText v.pretty = ⟨.ofJson v, true⟩ :=
  (scans_prettyChars hv 0).ofText

end EdgeConsole.Json
