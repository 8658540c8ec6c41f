/-!
# Cutting a text at a byte

A limit that counts bytes may fall inside a character, and there a text cannot be cut. So a text is
cut at a place or not at all, and the search for a place goes back byte by byte. It is never in
vain, because every text can be cut at its beginning.

Main definitions: `isBoundary`, `firstBytes?`, `lastBoundary?`.
-/

namespace EdgeConsole.Text

/-- A text can be cut behind its first `n` bytes: a character begins there, or the text ends. -/
def isBoundary (s : String) (n : Nat) : Bool := String.Pos.Raw.isValid s ⟨n⟩

theorem isBoundary_iff {s : String} {n : Nat} :
    isBoundary s n = true ↔ String.Pos.Raw.IsValid s ⟨n⟩ :=
  String.Pos.Raw.isValid_eq_true_iff

theorem isBoundary_zero (s : String) : isBoundary s 0 = true :=
  isBoundary_iff.mpr String.Pos.Raw.isValid_zero

/-- The first `n` bytes of a text, if it can be cut behind them. -/
def firstBytes? (s : String) (n : Nat) : Option String :=
  if h : isBoundary s n = true then some (s.sliceTo ⟨⟨n⟩, isBoundary_iff.mp h⟩).copy else none

theorem isSome_firstBytes? {s : String} {n : Nat} :
    (firstBytes? s n).isSome = isBoundary s n := by
  unfold firstBytes?
  split
  · next h => exact h.symm
  · next h => exact (Bool.eq_false_iff.mpr h).symm

/-- The last place not behind byte `n` at which a text can be cut. -/
def lastBoundary? (s : String) : Nat → Option Nat
  | 0 => if isBoundary s 0 then some 0 else none
  | n + 1 => if isBoundary s (n + 1) then some (n + 1) else lastBoundary? s n

theorem isSome_lastBoundary? (s : String) (n : Nat) : (lastBoundary? s n).isSome = true := by
  induction n with
  | zero =>
    rw [lastBoundary?, if_pos (isBoundary_zero s)]
    rfl
  | succ n ih =>
    rw [lastBoundary?]
    split
    · rfl
    · exact ih

theorem isBoundary_of_lastBoundary? {s : String} {n cut : Nat} (h : lastBoundary? s n = some cut) :
    isBoundary s cut = true := by
  induction n with
  | zero =>
    rw [lastBoundary?, if_pos (isBoundary_zero s)] at h
    obtain rfl := Option.some.inj h
    exact isBoundary_zero s
  | succ n ih =>
    rw [lastBoundary?] at h
    split at h
    · next hcut =>
      obtain rfl := Option.some.inj h
      exact hcut
    · exact ih h

end EdgeConsole.Text
