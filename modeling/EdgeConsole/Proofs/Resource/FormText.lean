import EdgeConsole.Proofs.Resource.Submission

/-!
# What the text of a setting tells

`Setting.Spells` lists the texts by which a form speaks of the values of a setting. Every value has
one such text and no other (`Setting.spells_iff`), and a text tells which value it was, unless the
value cannot be told (`Setting.eq_of_spells`): a choice without a name may have the spelling of a
known one, and a form has no place for a fraction of a second.
-/

namespace EdgeConsole.Resource

open Calendar (Instant)
open Calendar.Timestamp (numeral yearNumeral)

/-- The text by which a form speaks of a value. -/
inductive Setting.Spells : (s : Setting) → s.Val → String → Prop
  | text (x : String) : Spells .text x x
  | number (n : UInt32) : Spells .number n (toString n.toNat)
  | yes : Spells .flag true "1"
  | no : Spells .flag false "0"
  | instant (t : Instant) : Spells .instant t (String.ofList
      (yearNumeral t.date.year ++ '-' :: numeral 2 t.date.month ++ '-' :: numeral 2 t.date.day ++
        'T' :: numeral 2 t.clock.hour ++ ':' :: numeral 2 t.clock.minute ++
        ':' :: numeral 2 (t.clock.second + if 1000000000 ≤ t.clock.nano then 1 else 0) ++ ['Z']))
  | random : Spells .directorType .random "1"
  | hash : Spells .directorType .hash "3"
  | client : Spells .directorType .client "4"
  | code (n : UInt32) : Spells .directorType (.other n) (toString n.toNat)
  | request : Spells .conditionType .request "REQUEST"
  | cache : Spells .conditionType .cache "CACHE"
  | response : Spells .conditionType .response "RESPONSE"
  | stage (name : String) : Spells .conditionType (.other name) name
  | standard : Spells .redundancy .standard "standard"
  | reduced : Spells .redundancy .reducedRedundancy "reduced_redundancy"
  | storage (name : String) : Spells .redundancy (.other name) name

/-- The value can be told from its text in a form: a choice has no spelling but its own, and a time
is a whole second of a year of four digits. -/
def Setting.IsTellable : (s : Setting) → s.Val → Prop
  | .text, _ => True
  | .number, _ => True
  | .flag, _ => True
  | .instant, t =>
    t.date.HasFourDigits ∧ t.clock.IsRegular ∧ t.clock.nano % 1000000000 = 0
  | .directorType, d => Setting.IsProper .directorType d
  | .conditionType, c => Setting.IsProper .conditionType c
  | .redundancy, r => Setting.IsProper .redundancy r

namespace Setting

theorem spells_formText (s : Setting) (x : s.Val) : s.Spells x (s.formText x) := by
  cases s with
  | text => exact .text x
  | number => exact .number x
  | flag =>
    cases x with
    | true => exact .yes
    | false => exact .no
  | instant =>
    have hspells := Spells.instant x
    have hsecond : (x.clock.second + if 1000000000 ≤ x.clock.nano then 1 else 0) =
        Calendar.Timestamp.shownSecond x.clock := by
      rw [Calendar.Timestamp.shownSecond]
      split <;> rfl
    rwa [hsecond, ← Calendar.Timestamp.writeSeconds_eq_numerals] at hspells
  | directorType =>
    cases x with
    | random => exact .random
    | hash => exact .hash
    | client => exact .client
    | other n => exact .code n
  | conditionType =>
    cases x with
    | request => exact .request
    | cache => exact .cache
    | response => exact .response
    | other name => exact .stage name
  | redundancy =>
    cases x with
    | standard => exact .standard
    | reducedRedundancy => exact .reduced
    | other name => exact .storage name

/-- No value has two texts. -/
theorem eq_of_spells_right {s : Setting} {x : s.Val} {t u : String} (h : s.Spells x t)
    (h' : s.Spells x u) : t = u := by
  cases h <;> cases h' <;> rfl

/-- The text of a value is the one that is written for it. -/
theorem spells_iff {s : Setting} {x : s.Val} {t : String} : s.Spells x t ↔ t = s.formText x := by
  constructor
  · exact fun h => eq_of_spells_right h (s.spells_formText x)
  · rintro rfl
    exact s.spells_formText x

/-- No two values that can be told have one text. -/
theorem eq_of_spells {s : Setting} {x y : s.Val} {t : String} (h : s.Spells x t)
    (h' : s.Spells y t) (hx : s.IsTellable x) (hy : s.IsTellable y) : x = y := by
  have htext : s.formText x = s.formText y := (spells_iff.mp h).symm.trans (spells_iff.mp h')
  -- what is read of the text of a value is that value, for a time by its own reader
  have hread (hs : s ≠ .instant) (hpx : s.IsProper x) (hpy : s.IsProper y) : x = y := by
    have hback := read_formText hs hpx 0
    rw [htext, read_formText hs hpy 0] at hback
    exact (Option.some.inj (Except.ok.inj hback)).symm
  cases s with
  | text => exact hread (by decide) trivial trivial
  | number => exact hread (by decide) trivial trivial
  | flag => exact hread (by decide) trivial trivial
  | directorType => exact hread (by decide) hx hy
  | conditionType => exact hread (by decide) hx hy
  | redundancy => exact hread (by decide) hx hy
  | instant =>
    have hback := Calendar.Timestamp.read_writeSeconds hx.1 hx.2.1 hx.2.2
    have hback' := Calendar.Timestamp.read_writeSeconds hy.1 hy.2.1 hy.2.2
    have hsame : Calendar.Timestamp.writeSeconds x = Calendar.Timestamp.writeSeconds y := htext
    rw [hsame, hback'] at hback
    exact (Except.ok.inj hback).symm

end Setting

end EdgeConsole.Resource
