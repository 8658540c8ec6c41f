import EdgeConsole.Proofs.Text.Utf8
import EdgeConsole.Proofs.Web.Escape
import EdgeConsole.Web.Form

/-!
# Nothing is lost in a form

The pairs of a form are read back from its body (`Form.decode?_encode`), whatever characters their
names and values have. A name or a value is written in characters that are neither of the two
separators, so the body is cut where it was joined, and undoing the escapes of each piece gives its
bytes back.
-/

namespace EdgeConsole.Web.Form

open Text (Utf8.encode Utf8.decode?)

/-! ## Characters -/

/-- The characters that names and values are written in. -/
def isFormChar (c : Char) : Bool := isKept c || c == '+' || c == '%'

theorem isKept_hexDigitUpper : ∀ n < 16, isKept (hexDigitUpper n) = true := by decide

theorem isFormChar_of_mem_percentByte {b : UInt8} {c : Char} (h : c ∈ percentByte b) :
    isFormChar c = true := by
  have hlt : b.toNat < 256 := b.toNat_lt
  have hhigh := isKept_hexDigitUpper (b.toNat / 16) (by omega)
  have hlow := isKept_hexDigitUpper (b.toNat % 16) (by omega)
  simp only [percentByte, List.mem_cons, List.not_mem_nil, or_false] at h
  rcases h with rfl | rfl | rfl
  · decide
  · simp only [isFormChar, hhigh, Bool.true_or]
  · simp only [isFormChar, hlow, Bool.true_or]

theorem isFormChar_of_mem_encodeChar {c d : Char} (h : d ∈ encodeChar c) :
    isFormChar d = true := by
  unfold encodeChar at h
  split at h
  · obtain rfl := List.mem_singleton.mp h
    decide
  · simp only [percentEncode, List.flatMap_cons, List.flatMap_nil, List.append_nil] at h
    split at h
    · next hkept =>
      obtain rfl := List.mem_singleton.mp h
      simp only [isFormChar, hkept, Bool.true_or]
    · obtain ⟨b, -, hb⟩ := List.mem_flatMap.mp h
      exact isFormChar_of_mem_percentByte hb

theorem isFormChar_of_mem_encodeText {s : String} {c : Char} (h : c ∈ encodeText s) :
    isFormChar c = true := by
  obtain ⟨d, -, hd⟩ := List.mem_flatMap.mp h
  exact isFormChar_of_mem_encodeChar hd

/-- A character of a name or a value is no separator. -/
theorem ne_of_isFormChar {c sep : Char} (h : isFormChar c = true) (hsep : isFormChar sep = false) :
    c ≠ sep := by
  rintro rfl
  rw [h] at hsep
  exact Bool.noConfusion hsep

/-! ## Names and values -/

/-- The text with its plus signs as blanks. -/
def blanked (cs : List Char) : List Char := cs.map fun c => if c = '+' then ' ' else c

theorem blanked_append (cs ds : List Char) : blanked (cs ++ ds) = blanked cs ++ blanked ds :=
  List.map_append

theorem hexDigitUpper_ne_plus : ∀ n < 16, hexDigitUpper n ≠ '+' := by decide

/-- An escape has no plus sign. -/
theorem blanked_flatMap_percentByte (bs : List UInt8) :
    blanked (bs.flatMap percentByte) = bs.flatMap percentByte := by
  induction bs with
  | nil => rfl
  | cons b bs ih =>
    have hlt : b.toNat < 256 := b.toNat_lt
    have hhigh := hexDigitUpper_ne_plus (b.toNat / 16) (by omega)
    have hlow := hexDigitUpper_ne_plus (b.toNat % 16) (by omega)
    have hbyte : blanked (percentByte b) = percentByte b := by
      simp [blanked, percentByte, hhigh, hlow]
    rw [List.flatMap_cons, blanked_append, hbyte, ih]

/-- Undoing the escapes of a character gives its bytes. -/
theorem percentDecode_encodeChar (c : Char) (rest : List Char) :
    percentDecode (blanked (encodeChar c ++ rest)) =
      String.utf8EncodeChar c ++ percentDecode (blanked rest) := by
  rw [blanked_append]
  unfold encodeChar
  split
  · next hblank =>
    subst hblank
    exact percentDecode_cons_of_ne (by decide) _
  · simp only [percentEncode, List.flatMap_cons, List.flatMap_nil, List.append_nil]
    split
    · next hkept =>
      have hplus : c ≠ '+' := by
        rintro rfl
        exact absurd hkept (by decide)
      have hpercent : c ≠ '%' := by
        rintro rfl
        exact absurd hkept (by decide)
      have hsame : blanked [c] = [c] := by simp [blanked, hplus]
      rw [hsame]
      exact percentDecode_cons_of_ne hpercent _
    · rw [blanked_flatMap_percentByte, percentDecode_flatMap_percentByte]

theorem percentDecode_flatMap_encodeChar (cs : List Char) :
    percentDecode (blanked (cs.flatMap encodeChar)) = Utf8.encode cs := by
  induction cs with
  | nil => rfl
  | cons c cs ih =>
    rw [List.flatMap_cons, percentDecode_encodeChar, ih]
    rfl

/-- A name or a value is read back. -/
theorem decodeText?_encodeText (s : String) : decodeText? (encodeText s) = some s := by
  show (Utf8.decode? (percentDecode (blanked (encodeText s)))).map String.ofList = some s
  rw [encodeText, percentDecode_flatMap_encodeChar, Text.Utf8.decode?_encode, Option.map_some,
    String.ofList_toList]

/-! ## Pairs -/

/-- A pair is cut at the first equals sign. -/
theorem decodePair?_append {name value : List Char} {n v : String} (h : '=' ∉ name)
    (hn : decodeText? name = some n) (hv : decodeText? value = some v) :
    decodePair? (name ++ '=' :: value) = some (n, v) := by
  have hname : ∀ c ∈ name, (c != '=') = true := fun c hc => by
    refine bne_iff_ne.mpr ?_
    rintro rfl
    exact h hc
  have htake : (name ++ '=' :: value).takeWhile (· != '=') = name := by
    rw [List.takeWhile_append_of_pos hname]
    simp
  have hdrop : ((name ++ '=' :: value).dropWhile (· != '=')).drop 1 = value := by
    rw [List.dropWhile_append_of_pos hname]
    simp
  simp only [decodePair?, htake, hdrop, hn, hv]

theorem decodePair?_encodePair (p : Pair) : decodePair? (encodePair p) = some p :=
  decodePair?_append (fun hmem => ne_of_isFormChar (isFormChar_of_mem_encodeText hmem) rfl rfl)
    (decodeText?_encodeText p.1) (decodeText?_encodeText p.2)

theorem not_isSeparator_of_mem_encodePair {p : Pair} {c : Char} (h : c ∈ encodePair p) :
    (c == '&') = false := by
  rw [encodePair, List.mem_append, List.mem_cons] at h
  rcases h with h | rfl | h
  · exact beq_false_of_ne (ne_of_isFormChar (isFormChar_of_mem_encodeText h) (by decide))
  · decide
  · exact beq_false_of_ne (ne_of_isFormChar (isFormChar_of_mem_encodeText h) (by decide))

theorem encodePair_ne_nil (p : Pair) : encodePair p ≠ [] := by
  simp [encodePair]

/-- A body is cut into its pairs at the ampersands. -/
theorem splitOn_encodeChars {pairs : List Pair} (h : pairs ≠ []) :
    Text.splitOn '&' (encodeChars pairs) = pairs.map encodePair := by
  induction pairs with
  | nil => exact absurd rfl h
  | cons p rest ih =>
    have hp : ∀ c ∈ encodePair p, (c == '&') = false := fun c hc =>
      not_isSeparator_of_mem_encodePair hc
    cases rest with
    | nil => exact Text.splitWhere_of_none hp
    | cons q rest =>
      have hrest := ih (List.cons_ne_nil q rest)
      rw [encodeChars, Text.splitOn, Text.splitWhere_append hp (by decide), ← Text.splitOn, hrest]
      · rfl
      · exact List.cons_ne_nil q rest

/-- The pairs of a form are read back from its body, in order. -/
theorem decode?_encode (pairs : List Pair) : decode? (encode pairs) = some pairs := by
  have hpieces : ((Text.splitOn '&' (encodeChars pairs)).filter (!·.isEmpty)) =
      pairs.map encodePair := by
    by_cases hnone : pairs = []
    · subst hnone
      rfl
    · rw [splitOn_encodeChars hnone, List.filter_eq_self]
      intro piece hpiece
      obtain ⟨p, -, rfl⟩ := List.mem_map.mp hpiece
      simpa using encodePair_ne_nil p
  have hpairs : (pairs.map encodePair).mapM decodePair? = some pairs := by
    rw [List.mapM_map]
    show pairs.mapM (fun p => decodePair? (encodePair p)) = some pairs
    simp only [decodePair?_encodePair]
    show pairs.mapM (fun p => pure p) = some pairs
    rw [List.mapM_pure, List.map_id']
    rfl
  rw [decode?, encode, String.toList_ofList, hpieces, hpairs]

/-! ## Escapes as values -/

/-- An escape is read as the identifier: it has no plus sign that would be a blank. -/
theorem decodeText?_escape (s : String) : decodeText? (escape s).toList = some s := by
  have hplain : blanked (escape s).toList = (escape s).toList := by
    refine (List.map_congr_left fun c hc => if_neg ?_).trans (List.map_id _)
    rintro rfl
    exact not_mem_escape rfl s hc
  show (Utf8.decode? (percentDecode (blanked (escape s).toList))).map String.ofList = some s
  rw [hplain]
  exact unescape?_escape s

/-- A name and a value that are escaped, with an equals sign between them, are read as one pair. -/
theorem decode?_escape (name value : String) :
    decode? (escape name ++ "=" ++ escape value) = some [(name, value)] := by
  have hchars : (escape name ++ "=" ++ escape value).toList =
      (escape name).toList ++ '=' :: (escape value).toList := by
    rw [String.toList_append, String.toList_append, List.append_assoc]
    rfl
  have hone : ∀ c ∈ (escape name).toList ++ '=' :: (escape value).toList, (c == '&') = false := by
    intro c hc
    refine beq_eq_false_iff_ne.mpr ?_
    rintro rfl
    rw [List.mem_append, List.mem_cons] at hc
    rcases hc with hc | hc | hc
    · exact not_mem_escape rfl name hc
    · exact absurd hc (by decide)
    · exact not_mem_escape rfl value hc
  have hpair := decodePair?_append (not_mem_escape rfl name) (decodeText?_escape name)
    (decodeText?_escape value)
  rw [decode?, hchars, Text.splitOn, Text.splitWhere_of_none hone,
    List.filter_cons_of_pos (by simp), List.filter_nil]
  show (decodePair? _ >>= fun p => some [p]) = _
  rw [hpair]
  rfl

end EdgeConsole.Web.Form
