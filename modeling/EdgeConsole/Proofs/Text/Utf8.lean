import EdgeConsole.Text.Utf8

/-!
# The bytes of a text

The bytes of a text are read back as its characters (`decode?_encode`). A character of more than one
byte opens a pending state whose bounds its second byte meets, because code points are written in
the fewest bytes and none of them is a surrogate; each byte after it adds six bits.
-/

namespace EdgeConsole.Text

/-- A character takes at least a byte. -/
theorem length_le_length_flatMap_utf8EncodeChar (cs : List Char) :
    cs.length ≤ (cs.flatMap String.utf8EncodeChar).length := by
  induction cs with
  | nil => exact Nat.le_refl 0
  | cons c cs ih =>
    have hpos := c.utf8Size_pos
    rw [List.flatMap_cons, List.length_append, String.length_utf8EncodeChar, List.length_cons]
    omega

/-- A text has at least as many bytes as characters. -/
theorem length_le_utf8ByteSize (cs : List Char) :
    cs.length ≤ (String.ofList cs).utf8ByteSize := by
  have hsize : (String.ofList cs).utf8ByteSize = (cs.flatMap String.utf8EncodeChar).length := by
    show (String.ofList cs).toByteArray.size = _
    rw [String.toByteArray_ofList, List.utf8Encode]
    simp
  rw [hsize]
  exact length_le_length_flatMap_utf8EncodeChar cs

/-- A text of characters of a byte each has as many bytes as characters. -/
theorem utf8ByteSize_ofList_of_single {cs : List Char} (h : ∀ c ∈ cs, c.utf8Size = 1) :
    (String.ofList cs).utf8ByteSize = cs.length := by
  induction cs with
  | nil => rfl
  | cons c cs ih =>
    rw [String.ofList_cons, String.utf8ByteSize_append, String.utf8ByteSize_singleton,
      h c List.mem_cons_self, ih fun d hd => h d (List.mem_cons_of_mem c hd), List.length_cons,
      Nat.add_comm]

namespace Utf8

theorem toNat_ofNat_of_lt {b : Nat} (h : b < 256) : (UInt8.ofNat b).toNat = b := by
  simp [Nat.mod_eq_of_lt h]

/-- The only byte of an ASCII character is its code point. -/
theorem utf8EncodeChar_of_lt {c : Char} (h : c.toNat < 0x80) :
    String.utf8EncodeChar c = [UInt8.ofNat c.toNat] := by
  have hval : c.val.toNat = c.toNat := rfl
  rw [String.utf8EncodeChar, if_pos (show c.val.toNat ≤ 0x7F by omega)]
  rfl

/-! ## Single bytes -/

/-- A byte between two characters that opens a longer one. -/
theorem scan_opened {b : Nat} (hb : b < 256) {p : Pending} (h : start b = .opened p)
    (rest : List UInt8) : scan none (UInt8.ofNat b :: rest) = scan (some p) rest := by
  simp only [scan, toNat_ofNat_of_lt hb, h]

/-- A byte that adds six bits, with more to follow it. -/
theorem scan_continued {owed low high : Nat} (code : Nat) {x : Nat} (hlow : low ≤ x % 64 + 128)
    (hhigh : x % 64 + 128 ≤ high) (rest : List UInt8) :
    scan (some ⟨owed + 2, low, high, code⟩) (UInt8.ofNat (x % 64 + 128) :: rest) =
      scan (some ⟨owed + 1, 0x80, 0xBF, code * 64 + x % 64⟩) rest := by
  have hbyte : (UInt8.ofNat (x % 64 + 128)).toNat = x % 64 + 128 := toNat_ofNat_of_lt (by omega)
  rw [scan, hbyte]
  simp [hlow, hhigh]

/-- The last byte of a character. -/
theorem scan_completed (code x : Nat) (rest : List UInt8) :
    scan (some ⟨1, 0x80, 0xBF, code⟩) (UInt8.ofNat (x % 64 + 128) :: rest) =
      some (Char.ofNat (code * 64 + x % 64)) :: scan none rest := by
  have hbyte : (UInt8.ofNat (x % 64 + 128)).toNat = x % 64 + 128 := toNat_ofNat_of_lt (by omega)
  have hhigh : x % 64 + 128 ≤ 0xBF := by omega
  rw [scan, hbyte]
  simp [hhigh]

/-! ## Characters -/

/-- No code point is a surrogate. -/
theorem toNat_isValid (c : Char) : c.toNat < 0xD800 ∨ 0xDFFF < c.toNat ∧ c.toNat < 0x110000 :=
  c.valid

/-- The first byte of two. -/
theorem start_two {v : Nat} (hlow : 0x80 ≤ v) (hhigh : v ≤ 0x7FF) :
    start (v / 64 % 32 + 192) = .opened ⟨1, 0x80, 0xBF, v / 64⟩ := by
  have hcode : v / 64 % 32 + 192 - 0xC0 = v / 64 := by omega
  rw [start, if_neg (by omega), if_neg (by omega), if_pos (by omega), hcode]

/-- The first byte of three; the second one lies within its bounds. -/
theorem start_three {v : Nat} (hlow : 0x800 ≤ v) (hhigh : v ≤ 0xFFFF)
    (hvalid : v < 0xD800 ∨ 0xDFFF < v) :
    ∃ low high, start (v / 4096 % 16 + 224) = .opened ⟨2, low, high, v / 4096⟩ ∧
      low ≤ v / 64 % 64 + 128 ∧ v / 64 % 64 + 128 ≤ high := by
  have hcode : v / 4096 % 16 + 224 - 0xE0 = v / 4096 := by omega
  refine ⟨if v / 4096 % 16 + 224 = 0xE0 then 0xA0 else 0x80,
    if v / 4096 % 16 + 224 = 0xED then 0x9F else 0xBF, ?_, ?_, ?_⟩
  · rw [start, if_neg (by omega), if_neg (by omega), if_neg (by omega), if_pos (by omega), hcode]
  · split <;> omega
  · split <;> omega

/-- The first byte of four; the second one lies within its bounds. -/
theorem start_four {v : Nat} (hlow : 0x10000 ≤ v) (hhigh : v < 0x110000) :
    ∃ low high, start (v / 262144 % 8 + 240) = .opened ⟨3, low, high, v / 262144⟩ ∧
      low ≤ v / 4096 % 64 + 128 ∧ v / 4096 % 64 + 128 ≤ high := by
  have hcode : v / 262144 % 8 + 240 - 0xF0 = v / 262144 := by omega
  refine ⟨if v / 262144 % 8 + 240 = 0xF0 then 0x90 else 0x80,
    if v / 262144 % 8 + 240 = 0xF4 then 0x8F else 0xBF, ?_, ?_, ?_⟩
  · rw [start, if_neg (by omega), if_neg (by omega), if_neg (by omega), if_neg (by omega),
      if_pos (by omega), hcode]
  · split <;> omega
  · split <;> omega

/-- The bytes of a character are read as that character. -/
theorem scan_utf8EncodeChar (c : Char) (rest : List UInt8) :
    scan none (String.utf8EncodeChar c ++ rest) = some c :: scan none rest := by
  have hval : c.val.toNat = c.toNat := rfl
  have hvalid := toNat_isValid c
  -- each byte but the first adds six bits, so the code point is put together again at the end
  have hchar {n : Nat} (h : n = c.toNat) : some (Char.ofNat n) = some c := by
    rw [h, Char.ofNat_toNat]
  simp only [String.utf8EncodeChar, hval]
  split
  · next hone =>
    have hstart : start c.toNat = .whole c := by
      rw [start, if_pos (by omega), Char.ofNat_toNat]
    have hbyte : (UInt8.ofNat c.toNat).toNat = c.toNat := toNat_ofNat_of_lt (by omega)
    simp only [List.cons_append, List.nil_append, scan, hbyte, hstart]
  split
  · next hone htwo =>
    simp only [List.cons_append, List.nil_append]
    rw [scan_opened (by omega) (start_two (by omega) htwo), scan_completed, hchar (by omega)]
  split
  · next hone htwo hthree =>
    obtain ⟨low, high, hstart, hlow, hhigh⟩ :=
      start_three (v := c.toNat) (by omega) hthree (by omega)
    simp only [List.cons_append, List.nil_append]
    rw [scan_opened (by omega) hstart, scan_continued _ hlow hhigh, scan_completed,
      hchar (by omega)]
  · next hone htwo hthree =>
    obtain ⟨low, high, hstart, hlow, hhigh⟩ :=
      start_four (v := c.toNat) (by omega) (by omega)
    simp only [List.cons_append, List.nil_append]
    rw [scan_opened (by omega) hstart, scan_continued _ hlow hhigh,
      scan_continued _ (Nat.le_add_left _ _) (by omega), scan_completed, hchar (by omega)]

theorem scan_encode (cs : List Char) : scan none (encode cs) = cs.map some := by
  induction cs with
  | nil => rfl
  | cons c cs ih => rw [encode, List.flatMap_cons, scan_utf8EncodeChar, ← encode, ih, List.map_cons]

/-- The bytes of a text are well formed and hold that text. -/
theorem decode?_encode (cs : List Char) : decode? (encode cs) = some cs := by
  rw [decode?, scan_encode, List.mapM_map]
  show cs.mapM (fun c => pure c) = some cs
  rw [List.mapM_pure, List.map_id']
  rfl

/-- Nothing in the bytes of a text has to be replaced. -/
theorem decodeLossy_encode (cs : List Char) : decodeLossy (encode cs) = cs := by
  rw [decodeLossy, scan_encode, List.map_map]
  exact List.map_id cs

end Utf8

end EdgeConsole.Text
