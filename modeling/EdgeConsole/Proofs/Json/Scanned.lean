import EdgeConsole.Json.Reading
import EdgeConsole.Proofs.Outcome
import EdgeConsole.Proofs.Text.Blank

/-!
# What a scan leaves behind

A scan that comes to the end of a value has found nothing on the way that is no JSON: the value can
be skipped, and no list or object in it has a flaw (`skip_of_scan`). What may still keep it from
being read are numbers out of range, unpaired surrogates and names of those.
-/

namespace EdgeConsole.Json

open Outcome (bind_eq_ok_iff)

/-- A name that was scanned to its end is not broken. -/
theorem scanString_ne_broken {cs rest : List Char} {f g : Fault} :
    scanString cs ≠ (.broken f g, some rest) := by
  unfold scanString
  split
  · exact nofun
  · split <;> exact nofun

theorem skip_of_scanWord {word cs rest : List Char} {a : Atom} {o : Outline}
    (h : scanWord word a cs = (o, some rest)) : o.skip = .ok () := by
  unfold scanWord at h
  split at h
  · cases h
    rw [Outline.skip]
  · cases h

theorem skip_of_scanNumber {cs rest : List Char} {o : Outline}
    (h : scanNumber cs = (o, some rest)) : o.skip = .ok () := by
  unfold scanNumber at h
  split at h
  · cases h
  · split at h <;> cases h <;> rw [Outline.skip]

/-- With this much fuel, what is scanned to its end can be skipped. -/
structure Skips (fuel : Nat) : Prop where
  value : ∀ cs o rest, Outline.scan fuel cs = (o, some rest) → o.skip = .ok ()
  items : ∀ cs os flaw rest, scanItems fuel cs = (os, flaw, some rest) →
    flaw = none ∧ skipItems os = .ok ()
  members : ∀ cs ms flaw rest, scanMembers fuel cs = (ms, flaw, some rest) →
    flaw = none ∧ skipMembers ms = .ok ()

theorem skipMembers_cons {key : Key} (hkey : ∀ f g, key ≠ .broken f g) {o : Outline}
    (ho : o.skip = .ok ()) (ms : List (Key × Outline)) :
    skipMembers ((key, o) :: ms) = skipMembers ms := by
  rw [skipMembers, ho]
  · rfl
  · exact hkey

/-- Each member of what can be skipped can be skipped. -/
theorem skip_of_mem {ms : List (Key × Outline)} (h : skipMembers ms = .ok ()) :
    ∀ m ∈ ms, m.2.skip = .ok () := by
  induction ms with
  | nil => exact nofun
  | cons m ms ih =>
    obtain ⟨key, o⟩ := m
    by_cases hkey : ∃ f g, key = .broken f g
    · obtain ⟨f, g, rfl⟩ := hkey
      rw [skipMembers] at h
      cases h
    · rw [skipMembers, bind_eq_ok_iff] at h
      · obtain ⟨_, ho, hms⟩ := h
        exact List.forall_mem_cons.mpr ⟨ho, ih hms⟩
      · exact fun f g hbroken => hkey ⟨f, g, hbroken⟩

variable {fuel : Nat}

theorem Skips.scanItems_succ (h : Skips fuel) {cs rest : List Char} {os : List Outline}
    {flaw : Option Fault} (hscan : scanItems (fuel + 1) cs = (os, flaw, some rest)) :
    flaw = none ∧ skipItems os = .ok () := by
  rw [scanItems] at hscan
  split at hscan
  · cases hscan
  · next item after hitem =>
    have hskip := h.value _ _ _ hitem
    split at hscan
    · cases hscan
    · next c others _ =>
      split at hscan
      · cases hscan
        refine ⟨rfl, ?_⟩
        rw [skipItems, hskip]
        rfl
      · split at hscan
        · rcases hothers : scanItems fuel others with ⟨items, flaw', after'⟩
          rw [hothers] at hscan
          cases hscan
          obtain ⟨hflaw, hitems⟩ := h.items _ _ _ _ hothers
          refine ⟨hflaw, ?_⟩
          rw [skipItems, hskip]
          exact hitems
        · cases hscan

theorem Skips.scanMembers_succ (h : Skips fuel) {cs rest : List Char}
    {ms : List (Key × Outline)} {flaw : Option Fault}
    (hscan : scanMembers (fuel + 1) cs = (ms, flaw, some rest)) :
    flaw = none ∧ skipMembers ms = .ok () := by
  rw [scanMembers] at hscan
  split at hscan
  · cases hscan
  split at hscan
  case isFalse => cases hscan
  split at hscan
  · cases hscan
  next key after hkey =>
  have hname : ∀ f g, key ≠ .broken f g := by
    rintro f g rfl
    exact scanString_ne_broken hkey
  split at hscan
  · cases hscan
  split at hscan
  case isFalse => cases hscan
  split at hscan
  · cases hscan
  next value after' hvalue =>
  have hskip := h.value _ _ _ hvalue
  split at hscan
  · cases hscan
  next c others _ =>
  split at hscan
  · cases hscan
    refine ⟨rfl, ?_⟩
    rw [skipMembers_cons hname hskip]
    rfl
  split at hscan
  · rcases hothers : scanMembers fuel others with ⟨members, flaw', after''⟩
    rw [hothers] at hscan
    cases hscan
    obtain ⟨hflaw, hmembers⟩ := h.members _ _ _ _ hothers
    refine ⟨hflaw, ?_⟩
    rw [skipMembers_cons hname hskip]
    exact hmembers
  · cases hscan

theorem Skips.scan_succ (h : Skips fuel) {cs rest : List Char} {o : Outline}
    (hscan : Outline.scan (fuel + 1) cs = (o, some rest)) : o.skip = .ok () := by
  rw [Outline.scan] at hscan
  split at hscan
  · cases hscan
  next c others _ =>
  split at hscan
  · split at hscan <;> cases hscan <;> rw [Outline.skip]
    next f g hstring => exact absurd hstring scanString_ne_broken
  split at hscan
  · split at hscan
    · cases hscan
      rw [Outline.skip]
      rfl
    · rcases hitems : scanItems fuel others with ⟨items, flaw, after⟩
      rw [hitems] at hscan
      cases hscan
      obtain ⟨rfl, hskip⟩ := h.items _ _ _ _ hitems
      rw [Outline.skip, hskip]
      rfl
  split at hscan
  · split at hscan
    · cases hscan
      rw [Outline.skip]
      rfl
    · rcases hmembers : scanMembers fuel others with ⟨members, flaw, after⟩
      rw [hmembers] at hscan
      cases hscan
      obtain ⟨rfl, hskip⟩ := h.members _ _ _ _ hmembers
      rw [Outline.skip, hskip]
      rfl
  split at hscan
  · exact skip_of_scanWord hscan
  split at hscan
  · exact skip_of_scanWord hscan
  split at hscan
  · exact skip_of_scanWord hscan
  split at hscan
  · exact skip_of_scanNumber hscan
  · cases hscan

theorem skips : (fuel : Nat) → Skips fuel
  | 0 => ⟨by simp [Outline.scan], by simp [scanItems], by simp [scanMembers]⟩
  | fuel + 1 =>
    ⟨fun _ _ _ => (skips fuel).scan_succ, fun _ _ _ _ => (skips fuel).scanItems_succ,
      fun _ _ _ _ => (skips fuel).scanMembers_succ⟩

/-- What is scanned to its end can be skipped. -/
theorem skip_of_scan {cs rest : List Char} {o : Outline}
    (h : Outline.scan fuel cs = (o, some rest)) : o.skip = .ok () :=
  (skips fuel).value _ _ _ h

/-- The only value of a text can be skipped. -/
theorem Document.skip_of_ofText {text : String} {o : Outline}
    (h : Document.ofText text = ⟨o, true⟩) : o.skip = .ok () := by
  unfold Document.ofText at h
  dsimp only at h
  split at h
  · cases h
  · next hscan =>
    obtain ⟨rfl, -⟩ := Document.mk.inj h
    exact skip_of_scan hscan

/-- The bracket that a list or an object begins with. -/
def Outline.bracket? : Outline → Option Char
  | .list _ _ => some '['
  | .object _ _ => some '\x7b'
  | .atom _ => none
  | .unreadable _ => none
  | .broken _ _ _ => none

theorem bracket?_scanWord (word : List Char) (a : Atom) (cs : List Char) :
    (scanWord word a cs).1.bracket? = none := by
  unfold scanWord
  split <;> rfl

theorem bracket?_scanNumber (cs : List Char) : (scanNumber cs).1.bracket? = none := by
  unfold scanNumber
  split
  · rfl
  · split <;> rfl

/-- Before the items of a list and the members of an object stands the opening bracket. -/
theorem mem_of_bracket? {cs : List Char} {bracket : Char}
    (h : (Outline.scan fuel cs).1.bracket? = some bracket) : bracket ∈ cs := by
  cases fuel with
  | zero => cases h
  | succ fuel =>
    rw [Outline.scan] at h
    split at h
    · cases h
    next c others hcs =>
    have hmem : c ∈ cs := (List.dropWhile_suffix _).mem (hcs ▸ List.mem_cons_self ..)
    by_cases hquote : c = '"'
    · rw [if_pos hquote] at h
      split at h <;> cases h
    rw [if_neg hquote] at h
    by_cases hlist : c = '['
    · rw [if_pos hlist] at h
      have hbracket : some '[' = some bracket := by split at h <;> exact h
      rwa [← Option.some.inj hbracket, ← hlist]
    rw [if_neg hlist] at h
    by_cases hobject : c = '\x7b'
    · rw [if_pos hobject] at h
      have hbracket : some '\x7b' = some bracket := by split at h <;> exact h
      rwa [← Option.some.inj hbracket, ← hobject]
    rw [if_neg hobject] at h
    exfalso
    split at h
    · rw [bracket?_scanWord] at h
      cases h
    split at h
    · rw [bracket?_scanWord] at h
      cases h
    split at h
    · rw [bracket?_scanWord] at h
      cases h
    split at h
    · rw [bracket?_scanNumber] at h
      cases h
    · cases h

/-- The text of a list or an object is not blank. -/
theorem Document.isBlankText_of_bracket? {text : String} {bracket : Char}
    (h : (Document.ofText text).value.bracket? = some bracket)
    (hblank : Text.isBlank bracket = false) : Text.isBlankText text = false := by
  have hvalue : (Document.ofText text).value =
      (Outline.scan (2 * text.toList.length + 1) text.toList).1 := by
    unfold Document.ofText
    dsimp only
    split
    · next hscan => rw [hscan]
    · next hscan => rw [hscan]
  rw [hvalue] at h
  exact Text.isBlankText_of_mem (mem_of_bracket? h) hblank

end EdgeConsole.Json
