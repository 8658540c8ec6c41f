import EdgeConsole.Proofs.Text.Utf8
import EdgeConsole.Web.Percent

/-!
# Escaped identifiers

What the escape of an identifier looks like, and that nothing of the identifier is lost in it. An
escape holds only unreserved characters and percent signs, with two digits behind each of these
(`isEscaped_escape`). Undoing the percent escapes gives back the bytes of the identifier
(`percentDecode_percentEncode`) and from them the identifier (`unescape?_escape`), so two
identifiers with one escape are one (`escape_inj`).
-/

namespace EdgeConsole.Web

open Text (Utf8.encode)

/-! ## Characters -/

/-- What a letter in lower case may come from. -/
theorem eq_or_of_toLower {c d : Char} (h : c.toLower = d) :
    c = d ∨ (65 ≤ c.toNat ∧ c.toNat ≤ 90 ∧ d.toNat = c.toNat + 32) := by
  by_cases hc : c.val ≥ 'A'.val ∧ c.val ≤ 'Z'.val
  · have hle : 65 ≤ c.toNat ∧ c.toNat ≤ 90 := hc
    have hval : d.val = c.val + 32 := by
      rw [← h]
      exact congrArg Char.val (dif_pos hc)
    refine .inr ⟨hle.1, hle.2, ?_⟩
    show d.val.toNat = c.val.toNat + 32
    have hbound : c.val.toNat ≤ 90 := hle.2
    rw [hval, UInt32.toNat_add]
    have : (32 : UInt32).toNat = 32 := rfl
    omega
  · have hsame : c.toLower = c := dif_neg hc
    exact .inl (hsame.symm.trans h)

theorem toLower_eq_self {c : Char} (h : c.toNat < 65) : c.toLower = c := by
  rcases eq_or_of_toLower (c := c) rfl with hsame | ⟨hle, -⟩
  · exact hsame.symm
  · omega

/-- The characters of an escape. -/
def isEscapeChar (c : Char) : Bool := isUnreserved c || c == '%'

theorem isUnreserved_hexDigitUpper : ∀ n < 16, isUnreserved (hexDigitUpper n) = true := by decide

/-- Letters, digits and the marks that need no escape, by their code points. -/
theorem isUnreserved_iff {c : Char} : isUnreserved c = true ↔
    (65 ≤ c.toNat ∧ c.toNat ≤ 90) ∨ (97 ≤ c.toNat ∧ c.toNat ≤ 122) ∨
      (48 ≤ c.toNat ∧ c.toNat ≤ 57) ∨ c.toNat = 45 ∨ c.toNat = 95 ∨ c.toNat = 46 ∨
        c.toNat = 126 := by
  have eq (d : Char) : c = d ↔ c.toNat = d.toNat := Char.toNat_inj.symm
  have hupper : c.isUpper = decide (c.val ≥ 'A'.val ∧ c.val ≤ 'Z'.val) := rfl
  have hlower : c.isLower = (decide (c.val ≥ 'a'.val) && decide (c.val ≤ 'z'.val)) := rfl
  have halpha : c.isAlpha = (c.isUpper || c.isLower) := rfl
  simp only [isUnreserved, Char.isAlphanum, halpha, hupper, hlower, Char.isDigit,
    Bool.or_eq_true, Bool.and_eq_true, decide_eq_true_eq, beq_iff_eq, eq]
  simp only [Char.toNat, ge_iff_le, UInt32.le_iff_toNat_le]
  grind

theorem isEscapeChar_iff {c : Char} : isEscapeChar c = true ↔
    isUnreserved c = true ∨ c.toNat = 37 := by
  simp only [isEscapeChar, Bool.or_eq_true, beq_iff_eq, ← Char.toNat_inj]
  rfl

/-- Every character of what percent encoding writes is kept or belongs to a percent escape. -/
theorem mem_percentEncode {kept : Char → Bool} {cs : List Char} {d : Char}
    (h : d ∈ percentEncode kept cs) :
    (kept d = true ∧ d ∈ cs) ∨ isEscapeChar d = true := by
  obtain ⟨c, hc, hd⟩ := List.mem_flatMap.mp h
  split at hd
  · next hk =>
    obtain rfl := List.mem_singleton.mp hd
    exact .inl ⟨hk, hc⟩
  · obtain ⟨b, -, hb⟩ := List.mem_flatMap.mp hd
    have hlt : b.toNat < 256 := b.toNat_lt
    right
    simp only [percentByte, List.mem_cons, List.not_mem_nil, or_false] at hb
    rcases hb with rfl | rfl | rfl
    · decide
    · simp only [isEscapeChar, isUnreserved_hexDigitUpper _ (show b.toNat / 16 < 16 by omega),
        Bool.true_or]
    · simp only [isEscapeChar, isUnreserved_hexDigitUpper _ (show b.toNat % 16 < 16 by omega),
        Bool.true_or]

/-- An escape holds nothing but unreserved characters and percent signs. -/
theorem isEscapeChar_of_mem_escape {s : String} {c : Char} (h : c ∈ (escape s).toList) :
    isEscapeChar c = true := by
  rw [escape, String.toList_ofList] at h
  rcases mem_percentEncode h with ⟨hk, -⟩ | hd
  · simp only [isEscapeChar, hk, Bool.true_or]
  · exact hd

/-- A character that is no escape character does not stand in an escape. -/
theorem not_mem_escape {c : Char} (h : isEscapeChar c = false) (s : String) :
    c ∉ (escape s).toList := fun hmem => by
  rw [isEscapeChar_of_mem_escape hmem] at h
  exact Bool.noConfusion h

/-- Every character leaves something behind. -/
theorem percentEncode_ne_nil {cs : List Char} (h : cs ≠ []) (kept : Char → Bool) :
    percentEncode kept cs ≠ [] := by
  intro hnil
  cases cs with
  | nil => exact h rfl
  | cons c cs =>
    have hc : (if kept c then [c] else (String.utf8EncodeChar c).flatMap percentByte) = [] :=
      (List.append_eq_nil_iff.mp hnil).1
    split at hc
    · cases hc
    · cases hbytes : String.utf8EncodeChar c with
      | nil => exact String.utf8EncodeChar_ne_nil hbytes
      | cons b bs => rw [hbytes] at hc; cases hc

/-! ## Escapes -/

/-- Letters, digits and four marks, and percent signs with two digits behind them in upper case. -/
inductive IsEscaped : List Char → Prop
  | nil : IsEscaped []
  | kept {c : Char} {cs : List Char}
      (hc : c ∈ "ABCDEFGHIJKLMNOPQRSTUVWXYZabcdefghijklmnopqrstuvwxyz0123456789-_.~".toList)
      (hrest : IsEscaped cs) : IsEscaped (c :: cs)
  | byte {a b : Char} {cs : List Char} (ha : a ∈ "0123456789ABCDEF".toList)
      (hb : b ∈ "0123456789ABCDEF".toList) (hrest : IsEscaped cs) : IsEscaped ('%' :: a :: b :: cs)

theorem mem_of_isUnreserved {c : Char} (h : isUnreserved c = true) :
    c ∈ "ABCDEFGHIJKLMNOPQRSTUVWXYZabcdefghijklmnopqrstuvwxyz0123456789-_.~".toList := by
  have hall : ∀ n < 127, isUnreserved (Char.ofNat n) = true → Char.ofNat n ∈
      "ABCDEFGHIJKLMNOPQRSTUVWXYZabcdefghijklmnopqrstuvwxyz0123456789-_.~".toList := by
    decide +kernel
  have hlt : c.toNat < 127 := by
    rcases isUnreserved_iff.mp h with h | h | h | h | h | h | h <;> omega
  rw [← Char.ofNat_toNat c] at h ⊢
  exact hall c.toNat hlt h

theorem hexDigitUpper_mem : ∀ n < 16, hexDigitUpper n ∈ "0123456789ABCDEF".toList := by decide

theorem IsEscaped.percentBytes (bs : List UInt8) {rest : List Char} (h : IsEscaped rest) :
    IsEscaped (bs.flatMap percentByte ++ rest) := by
  induction bs with
  | nil => exact h
  | cons b bs ih =>
    have hlt : b.toNat < 256 := b.toNat_lt
    rw [List.flatMap_cons, List.append_assoc]
    exact .byte (hexDigitUpper_mem _ (by omega)) (hexDigitUpper_mem _ (by omega)) ih

theorem isEscaped_escape (s : String) : IsEscaped (escape s).toList := by
  rw [escape, String.toList_ofList]
  induction s.toList with
  | nil => exact .nil
  | cons c cs ih =>
    rw [percentEncode, List.flatMap_cons, ← percentEncode]
    split
    · next hkept => exact .kept (mem_of_isUnreserved hkept) ih
    · exact ih.percentBytes _

/-! ## Nothing is lost -/

theorem hexDigit?_hexDigitUpper : ∀ n < 16, hexDigit? (hexDigitUpper n) = some n := by decide

/-- A character that is no percent sign stands for itself. -/
theorem percentDecode_cons_of_ne {c : Char} (h : c ≠ '%') (rest : List Char) :
    percentDecode (c :: rest) = String.utf8EncodeChar c ++ percentDecode rest := by
  rw [percentDecode]
  rintro a b tail rfl
  exact absurd rfl h

/-- The escape of a byte is read as that byte. -/
theorem percentDecode_percentByte (b : UInt8) (rest : List Char) :
    percentDecode (percentByte b ++ rest) = b :: percentDecode rest := by
  have hlt : b.toNat < 256 := b.toNat_lt
  have hhigh := hexDigit?_hexDigitUpper (b.toNat / 16) (by omega)
  have hlow := hexDigit?_hexDigitUpper (b.toNat % 16) (by omega)
  have hb : b.toNat / 16 * 16 + b.toNat % 16 = b.toNat := by omega
  simp only [percentByte, List.cons_append, List.nil_append, percentDecode, hhigh, hlow, hb,
    UInt8.ofNat_toNat]

theorem percentDecode_flatMap_percentByte (bs : List UInt8) (rest : List Char) :
    percentDecode (bs.flatMap percentByte ++ rest) = bs ++ percentDecode rest := by
  induction bs with
  | nil => rfl
  | cons b bs ih =>
    rw [List.flatMap_cons, List.append_assoc, percentDecode_percentByte, ih, List.cons_append]

/-- Undoing the percent escapes gives the bytes of the text, if no percent sign was kept. -/
theorem percentDecode_percentEncode {kept : Char → Bool} (h : kept '%' = false) (cs : List Char) :
    percentDecode (percentEncode kept cs) = Utf8.encode cs := by
  induction cs with
  | nil => rfl
  | cons c cs ih =>
    rw [percentEncode, List.flatMap_cons, ← percentEncode]
    by_cases hk : kept c = true
    · have hc : c ≠ '%' := by
        rintro rfl
        rw [h] at hk
        exact Bool.noConfusion hk
      rw [if_pos hk, List.cons_append, List.nil_append, percentDecode_cons_of_ne hc, ih]
      rfl
    · rw [if_neg hk, percentDecode_flatMap_percentByte, ih]
      rfl

/-- A text is determined by its bytes. -/
theorem utf8Encode_inj {cs ds : List Char} (h : Utf8.encode cs = Utf8.encode ds) : cs = ds := by
  have hbytes : (String.ofList cs).toByteArray = (String.ofList ds).toByteArray := by
    rw [String.toByteArray_ofList, String.toByteArray_ofList, List.utf8Encode, List.utf8Encode]
    exact congrArg List.toByteArray h
  have hs := congrArg String.toList (String.toByteArray_inj.mp hbytes)
  simpa only [String.toList_ofList] using hs

theorem percentDecode_escape (s : String) :
    percentDecode (escape s).toList = Utf8.encode s.toList := by
  rw [escape, String.toList_ofList]
  exact percentDecode_percentEncode rfl _

/-- An identifier is read back from its escape. -/
theorem unescape?_escape (s : String) : unescape? (escape s) = some s := by
  rw [unescape?, percentDecode_escape, Text.Utf8.decode?_encode, Option.map_some,
    String.ofList_toList]

/-- Two identifiers with one escape are one. -/
theorem escape_inj {s t : String} : escape s = escape t ↔ s = t := by
  refine ⟨fun h => ?_, congrArg escape⟩
  apply String.toList_inj.mp
  apply utf8Encode_inj
  rw [← percentDecode_escape, ← percentDecode_escape, h]

/-- An escape that reads as the bytes of a text is the escape of that text. -/
theorem eq_of_percentDecode_escape {s t : String}
    (h : percentDecode (escape s).toList = Utf8.encode t.toList) : s = t := by
  rw [percentDecode_escape] at h
  exact String.toList_inj.mp (utf8Encode_inj h)

/-- Only an empty identifier has an empty escape. -/
theorem escape_eq_nil {s : String} : (escape s).toList = [] ↔ s = "" := by
  refine ⟨fun h => ?_, fun h => by rw [h]; rfl⟩
  apply eq_of_percentDecode_escape
  rw [h]
  rfl

end EdgeConsole.Web
