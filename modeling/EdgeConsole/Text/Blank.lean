/-!
# Blank characters

White space in the sense of the Unicode property `White_Space`, and the trimming that rests on it.
Identifiers, keys, endpoints and weakly typed values are trimmed by this rule, so that a value
made of blanks alone counts as absent.
-/

namespace EdgeConsole.Text

/-- The Unicode property `White_Space`. -/
def isBlank (c : Char) : Bool :=
  let n := c.toNat
  (0x9 ≤ n && n ≤ 0xD) || n == 0x20 || n == 0x85 || n == 0xA0 || n == 0x1680 ||
    (0x2000 ≤ n && n ≤ 0x200A) || n == 0x2028 || n == 0x2029 || n == 0x202F || n == 0x205F ||
    n == 0x3000

/-- Drops the characters at the end that satisfy `p`. -/
def dropTail (p : α → Bool) (cs : List α) : List α :=
  (cs.reverse.dropWhile p).reverse

/-- Drops the blanks on both sides. -/
def trimChars (cs : List Char) : List Char :=
  dropTail isBlank (cs.dropWhile isBlank)

/-- The text without the blanks at its two ends. -/
def trim (s : String) : String :=
  String.ofList (trimChars s.toList)

/-- The text without the blanks at its end. -/
def trimEnd (s : String) : String :=
  String.ofList (dropTail isBlank s.toList)

/-- The text has no character but blanks. -/
def isBlankText (s : String) : Bool :=
  s.toList.all isBlank

@[simp] theorem dropTail_nil (p : Char → Bool) : dropTail p [] = [] := rfl

/-- What follows a character that stays is dropped on its own. -/
theorem dropTail_append_of_not {p : Char → Bool} {cs : List Char} {c : Char} (h : p c = false)
    (tail : List Char) : dropTail p (cs ++ c :: tail) = cs ++ c :: dropTail p tail := by
  simp only [dropTail, List.reverse_append, List.reverse_cons, List.append_assoc]
  rw [List.dropWhile_append]
  split
  · next hd =>
    have : List.dropWhile p tail.reverse = [] := by simpa using hd
    simp [this, h]
  · simp

end EdgeConsole.Text
