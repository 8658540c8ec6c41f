import Mathlib.Data.List.TakeWhile
import EdgeConsole.Proofs.Web.Segments

/-!
# What stands in front of a path

A URL of the web is read from its front: the scheme, then the host and the port, and what is left is
the path with all that follows it. A text that is put behind another one changes nothing of what the
first one says in front, provided that it begins where a host must end, or that the host has ended
before (`EndsHost`, `readAuthority_append`).

Cleaning is the one step that looks at both ends of a text. `opening` is what it leaves of a text
that something follows: the blanks in front are gone and those at the end are still there.
-/

namespace EdgeConsole.Web.Url

/-! ## Cleaning -/

/-- What is left of a text that something follows. -/
def opening (cs : List Char) : List Char := (cs.dropWhile isEdge).filter (!isBreak ·)

theorem isEdge_of_isBreak {c : Char} (h : isBreak c = true) : isEdge c = true := by
  simp only [isBreak, Bool.or_eq_true, beq_iff_eq] at h
  rcases h with (rfl | rfl) | rfl <;> decide

theorem filter_not_isBreak {cs : List Char} (h : ∀ c ∈ cs, isEdge c = false) :
    cs.filter (!isBreak ·) = cs := by
  rw [List.filter_eq_self]
  intro c hc
  cases hb : isBreak c with
  | false => rfl
  | true => exact absurd (h c hc) (by rw [isEdge_of_isBreak hb]; decide)

theorem mem_of_mem_opening {cs : List Char} {c : Char} (h : c ∈ opening cs) : c ∈ cs :=
  (List.dropWhile_suffix _).subset (List.mem_filter.mp h).1

theorem mem_opening {cs : List Char} {c : Char} (h : c ∈ cs) (hc : isEdge c = false) :
    c ∈ opening cs := by
  rw [← List.takeWhile_append_dropWhile (p := isEdge) (l := cs)] at h
  refine List.mem_filter.mpr ⟨?_, ?_⟩
  · rcases List.mem_append.mp h with h | h
    · have hedge := List.all_eq_true.mp (List.all_takeWhile ..) c h
      rw [hc] at hedge
      exact Bool.noConfusion hedge
    · exact h
  · refine (Bool.not_eq_true' _).mpr (Bool.eq_false_iff.mpr fun hb => ?_)
    rw [isEdge_of_isBreak hb] at hc
    exact Bool.noConfusion hc

/-- What is left at the end of a text, apart from what is dropped there. -/
theorem opening_eq_clean_append (cs : List Char) :
    ∃ blanks, (∀ c ∈ blanks, isEdge c = true) ∧ opening cs = clean cs ++ blanks := by
  let front := cs.dropWhile isEdge
  let tail := (front.reverse.takeWhile isEdge).reverse
  have hfront : front = (front.reverse.dropWhile isEdge).reverse ++ tail := by
    rw [← List.reverse_append, List.takeWhile_append_dropWhile, List.reverse_reverse]
  refine ⟨tail.filter (!isBreak ·), ?_, ?_⟩
  · intro c hc
    have hmem := List.mem_reverse.mp (List.mem_filter.mp hc).1
    exact List.all_eq_true.mp (List.all_takeWhile ..) c hmem
  · rw [opening, clean, ← List.filter_append]
    exact congrArg (List.filter (!isBreak ·)) hfront

theorem dropWhile_isEdge {cs : List Char} (h : ∀ c ∈ cs, isEdge c = false) :
    cs.dropWhile isEdge = cs := by
  cases cs with
  | nil => rfl
  | cons c cs =>
    rw [List.dropWhile_cons_of_neg]
    rw [h c List.mem_cons_self]
    decide

theorem dropWhile_isEdge_append {rest : List Char} (hrest : ∀ c ∈ rest, isEdge c = false)
    (cs : List Char) : (cs ++ rest).dropWhile isEdge = cs.dropWhile isEdge ++ rest := by
  rw [List.dropWhile_append]
  split
  · next hnil => rw [dropWhile_isEdge hrest, List.isEmpty_iff.mp hnil, List.nil_append]
  · rfl

theorem opening_append {rest : List Char} (hrest : ∀ c ∈ rest, isEdge c = false)
    (cs : List Char) : opening (cs ++ rest) = opening cs ++ rest := by
  rw [opening, dropWhile_isEdge_append hrest, List.filter_append, filter_not_isBreak hrest, opening]

/-- Cleaning a text that ends in what stays cleans only what stands in front of that. -/
theorem clean_append {rest : List Char} (hne : rest ≠ []) (hrest : ∀ c ∈ rest, isEdge c = false)
    (cs : List Char) : clean (cs ++ rest) = opening cs ++ rest := by
  have hback : (rest.reverse ++ (cs.dropWhile isEdge).reverse).dropWhile isEdge =
      rest.reverse ++ (cs.dropWhile isEdge).reverse := by
    rw [List.dropWhile_append,
      dropWhile_isEdge fun c hc => hrest c (List.mem_reverse.mp hc), if_neg]
    rw [List.isEmpty_iff, List.reverse_eq_nil_iff]
    exact hne
  rw [clean, dropWhile_isEdge_append hrest, List.reverse_append, hback, List.reverse_append,
    List.reverse_reverse, List.reverse_reverse, List.filter_append, filter_not_isBreak hrest,
    opening]

/-! ## Scheme -/

/-- A scheme is letters up to the first colon, spelled in any case. -/
theorem splitScheme?_eq_some {cs scheme rest : List Char} :
    splitScheme? cs = some (scheme, rest) ↔
      ∃ word, cs = word ++ ':' :: rest ∧ (∀ c ∈ word, isSchemeChar c = true) ∧
        word.head?.any Char.isAlpha = true ∧ scheme = word.map Char.toLower := by
  have hcolon : isSchemeChar ':' = false := by decide
  constructor
  · intro h
    have hparts : cs = cs.takeWhile isSchemeChar ++ cs.dropWhile isSchemeChar :=
      List.takeWhile_append_dropWhile.symm
    cases cs with
    | nil => cases h
    | cons c cs =>
      rw [splitScheme?] at h
      by_cases ha : c.isAlpha = true
      · simp only [ha, Bool.not_true, Bool.false_eq_true, if_false] at h
        split at h
        · next after hdrop =>
          cases h
          rw [hdrop] at hparts
          refine ⟨_, hparts, fun d hd => List.all_eq_true.mp (List.all_takeWhile ..) d hd, ?_, rfl⟩
          have hc : isSchemeChar c = true := by
            simp only [isSchemeChar, Char.isAlphanum, ha, Bool.true_or]
          rw [List.takeWhile_cons_of_pos hc, List.head?_cons, Option.any_some, ha]
        · cases h
      · simp only [ha, Bool.not_false, if_true] at h
        cases h
  · rintro ⟨word, rfl, hword, halpha, rfl⟩
    cases word with
    | nil => cases halpha
    | cons c word =>
      have ha : c.isAlpha = true := halpha
      have hdrop : (c :: word ++ ':' :: rest).dropWhile isSchemeChar = ':' :: rest := by
        rw [List.dropWhile_append_of_pos hword, List.dropWhile_cons_of_neg]
        rw [hcolon]
        decide
      have htake : (c :: word ++ ':' :: rest).takeWhile isSchemeChar = c :: word := by
        rw [List.takeWhile_append_of_pos hword, List.takeWhile_cons_of_neg, List.append_nil]
        rw [hcolon]
        decide
      rw [List.cons_append] at hdrop htake ⊢
      rw [splitScheme?, hdrop, htake, ha]
      rfl

theorem splitScheme?_append {cs scheme rest : List Char}
    (h : splitScheme? cs = some (scheme, rest)) (more : List Char) :
    splitScheme? (cs ++ more) = some (scheme, rest ++ more) := by
  obtain ⟨word, rfl, hword⟩ := splitScheme?_eq_some.mp h
  exact splitScheme?_eq_some.mpr ⟨word, by rw [List.append_assoc, List.cons_append], hword⟩

/-- A scheme does not reach past a slash. -/
theorem exists_splitScheme?_of_append {cs more scheme rest : List Char}
    (h : splitScheme? (cs ++ '/' :: more) = some (scheme, rest)) :
    ∃ front, splitScheme? cs = some (scheme, front) := by
  obtain ⟨word, heq, hword, hrest⟩ := splitScheme?_eq_some.mp h
  have hslash : '/' ∉ word := fun hmem => absurd (hword '/' hmem) (by decide)
  rcases List.append_eq_append_iff.mp heq with ⟨mid, rfl, hmid⟩ | ⟨mid, rfl, hmid⟩
  · cases mid with
    | nil => cases hmid
    | cons d mid =>
      obtain ⟨rfl, -⟩ := List.cons.inj hmid
      exact absurd (List.mem_append_right _ List.mem_cons_self) hslash
  · cases mid with
    | nil => cases hmid
    | cons d mid =>
      obtain ⟨rfl, -⟩ := List.cons.inj hmid
      exact ⟨mid, splitScheme?_eq_some.mpr ⟨word, rfl, hword, hrest⟩⟩

/-! ## Host and port -/

/-- The part of a URL that names its host ends before the text goes on, or where it goes on. -/
def EndsHost (cs more : List Char) : Prop :=
  cs.any (endsAuthority .web) = true ∨ more.head?.all (endsAuthority .web) = true

theorem EndsHost.of_append {front cs more : List Char} (h : EndsHost (front ++ cs) more)
    (hfront : ∀ c ∈ front, endsAuthority .web c = false) : EndsHost cs more := by
  rw [EndsHost, List.any_append, Bool.or_eq_true] at h
  rcases h with (h | h) | h
  · obtain ⟨c, hc, hend⟩ := List.any_eq_true.mp h
    rw [hfront c hc] at hend
    exact Bool.noConfusion hend
  · exact .inl h
  · exact .inr h

theorem EndsHost.of_cons {c : Char} {cs more : List Char} (h : EndsHost (c :: cs) more)
    (hc : endsAuthority .web c = false) : EndsHost cs more := by
  have hfront : EndsHost ([c] ++ cs) more := h
  exact hfront.of_append fun d hd => by rw [List.mem_singleton.mp hd, hc]

theorem EndsHost.append_left {cs more : List Char} (h : EndsHost cs more) (front : List Char) :
    EndsHost (front ++ cs) more := by
  rw [EndsHost, List.any_append, Bool.or_eq_true]
  exact h.imp_left .inr

section Cutting

variable {p : Char → Bool} (hp : ∀ c, endsAuthority .web c = true → p c = false)
include hp

/-- What is cut off in front of the end of the host is cut off of the longer text. -/
theorem EndsHost.takeWhile_append {cs more : List Char} (h : EndsHost cs more) :
    (cs ++ more).takeWhile p = cs.takeWhile p := by
  induction cs with
  | nil =>
    rcases h with h | h
    · cases h
    · cases more with
      | nil => rfl
      | cons d more =>
        rw [List.nil_append, List.takeWhile_cons_of_neg, List.takeWhile_nil]
        rw [hp d h]
        decide
  | cons c cs ih =>
    rw [List.cons_append, List.takeWhile_cons, List.takeWhile_cons]
    split
    · next hc =>
      have hend : endsAuthority .web c = false :=
        Bool.eq_false_iff.mpr fun hend => by rw [hp c hend] at hc; exact Bool.noConfusion hc
      rw [ih (h.of_cons hend)]
    · rfl

theorem EndsHost.dropWhile_append {cs more : List Char} (h : EndsHost cs more) :
    (cs ++ more).dropWhile p = cs.dropWhile p ++ more := by
  have hparts := List.takeWhile_append_dropWhile (p := p) (l := cs ++ more)
  rw [h.takeWhile_append hp] at hparts
  conv at hparts => rhs; rw [← List.takeWhile_append_dropWhile (p := p) (l := cs)]
  rw [List.append_assoc] at hparts
  exact List.append_cancel_left hparts

theorem EndsHost.of_dropWhile {cs more : List Char} (h : EndsHost cs more) :
    EndsHost (cs.dropWhile p) more := by
  rw [← List.takeWhile_append_dropWhile (p := p) (l := cs)] at h
  refine h.of_append fun c hc => ?_
  have hpc : p c = true := List.all_eq_true.mp (List.all_takeWhile ..) c hc
  exact Bool.eq_false_iff.mpr fun hend => by rw [hp c hend] at hpc; exact Bool.noConfusion hpc

end Cutting

/-- The text after the host begins with what ends the host, or with a port. -/
theorem splitHost_spec (cs : List Char) (inBrackets : Bool) :
    cs = (splitHost .web inBrackets cs).1 ++ (splitHost .web inBrackets cs).2 ∧
      (∀ c ∈ (splitHost .web inBrackets cs).1, endsAuthority .web c = false) ∧
      (splitHost .web inBrackets cs).2.head?.all
        (fun c => c == ':' || endsAuthority .web c) = true := by
  induction cs generalizing inBrackets with
  | nil => exact ⟨rfl, by simp [splitHost], rfl⟩
  | cons c cs ih =>
    rw [splitHost]
    by_cases hc : (c == ':' && !inBrackets || endsAuthority .web c) = true
    · simp only [hc, if_true]
      refine ⟨rfl, by simp, ?_⟩
      rw [Bool.or_eq_true, Bool.and_eq_true] at hc
      rw [List.head?_cons, Option.all_some, Bool.or_eq_true]
      exact hc.imp_left (·.1)
    · simp only [hc, Bool.false_eq_true, if_false]
      obtain ⟨hsum, hfree, hhead⟩ := ih (if c == '[' then true else if c == ']' then false else
        inBrackets)
      refine ⟨by rw [List.cons_append, ← hsum], ?_, hhead⟩
      rw [Bool.not_eq_true, Bool.or_eq_false_iff] at hc
      intro d hd
      rcases List.mem_cons.mp hd with rfl | hd
      · exact hc.2
      · exact hfree d hd

/-- The host is the same in a longer text, if it has an end in the shorter one or right after. -/
theorem splitHost_append {more : List Char} :
    ∀ {cs : List Char} {inBrackets : Bool},
      (splitHost .web inBrackets cs).2 ≠ [] ∨ more.head?.all (endsAuthority .web) = true →
      splitHost .web inBrackets (cs ++ more) =
        ((splitHost .web inBrackets cs).1, (splitHost .web inBrackets cs).2 ++ more)
  | [], inBrackets, h => by
    rcases h with h | h
    · exact absurd rfl h
    · cases more with
      | nil => rfl
      | cons d more =>
        have hd : endsAuthority .web d = true := h
        simp only [List.nil_append, splitHost, hd, Bool.or_true, if_true]
  | c :: cs, inBrackets, h => by
    rw [splitHost] at h
    rw [List.cons_append, splitHost, splitHost]
    by_cases hc : (c == ':' && !inBrackets || endsAuthority .web c) = true
    · simp only [hc, if_true, List.cons_append]
    · simp only [hc, Bool.false_eq_true, if_false] at h ⊢
      simp only [splitHost_append h]

/-- A host that takes a whole text takes more of it, if nothing of that could end a host. -/
theorem splitHost_append_of_free {more : List Char}
    (hmore : ∀ c ∈ more, c ≠ ':' ∧ endsAuthority .web c = false) :
    ∀ {cs : List Char} {inBrackets : Bool}, (splitHost .web inBrackets cs).2 = [] →
      splitHost .web inBrackets (cs ++ more) = (cs ++ more, [])
  | [], inBrackets, _ => by
    rw [List.nil_append]
    induction more generalizing inBrackets with
    | nil => rfl
    | cons c more ih =>
      obtain ⟨hcolon, hend⟩ := hmore c List.mem_cons_self
      have hc : (c == ':' && !inBrackets || endsAuthority .web c) = false := by
        rw [beq_eq_false_iff_ne.mpr hcolon, hend]
        rfl
      simp only [splitHost, hc, Bool.false_eq_true, if_false,
        ih (fun d hd => hmore d (List.mem_cons_of_mem _ hd)) _ rfl]
  | c :: cs, inBrackets, h => by
    rw [splitHost] at h
    rw [List.cons_append, splitHost]
    by_cases hc : (c == ':' && !inBrackets || endsAuthority .web c) = true
    · simp only [hc, if_true, reduceCtorEq] at h
    · simp only [hc, Bool.false_eq_true, if_false] at h ⊢
      simp only [splitHost_append_of_free hmore h]

theorem not_isDigit_of_endsAuthority {c : Char} (h : endsAuthority .web c = true) :
    c.isDigit = false := by
  simp only [endsAuthority, isSlash, Bool.or_eq_true, Bool.and_eq_true, beq_iff_eq] at h
  rcases h with ((rfl | ⟨-, rfl⟩) | rfl) | rfl <;> decide

/-- The ends of a port are the ends of the part that names the host. -/
theorem readPort_eq (scheme cs : List Char) :
    readPort scheme cs =
      let digits := cs.takeWhile Char.isDigit
      let rest := cs.dropWhile Char.isDigit
      let port := digits.foldl (fun n c => n * 10 + (c.toNat - 48)) 0
      if 65535 < port ∨ rest.head?.all (endsAuthority .web) = false then .error .invalidPort
      else if digits.isEmpty ∨ some port = defaultPort? scheme then .ok (none, rest)
      else .ok (some port, rest) := by
  rw [readPort]
  cases hrest : cs.dropWhile Char.isDigit with
  | nil => simp
  | cons c rest =>
    have hends : endsAuthority .web c = (c == '/' || c == '\\' || c == '?' || c == '#') := rfl
    simp [hends]

theorem readPort_append {cs more : List Char} (scheme : List Char) (h : EndsHost cs more) :
    readPort scheme (cs ++ more) =
      (readPort scheme cs).map fun (port, rest) => (port, rest ++ more) := by
  have hdigit (c : Char) (hc : endsAuthority .web c = true) := not_isDigit_of_endsAuthority hc
  have hhead : (cs.dropWhile Char.isDigit ++ more).head?.all (endsAuthority .web) =
      (cs.dropWhile Char.isDigit).head?.all (endsAuthority .web) := by
    cases hrest : cs.dropWhile Char.isDigit with
    | nil =>
      have hend := h.of_dropWhile hdigit
      rw [hrest, EndsHost, List.any_nil] at hend
      simpa using hend
    | cons c rest => rfl
  rw [readPort_eq, readPort_eq, h.takeWhile_append hdigit, h.dropWhile_append hdigit]
  dsimp only
  rw [hhead]
  split
  · rfl
  · split <;> rfl

/-- A port takes all the digits, and then the part that names the host has to end. -/
theorem readPort_spec {scheme cs rest : List Char} {port : Option Nat}
    (h : readPort scheme cs = .ok (port, rest)) :
    rest = cs.dropWhile Char.isDigit ∧ rest.head?.all (endsAuthority .web) = true := by
  rw [readPort_eq] at h
  dsimp only at h
  split at h
  · cases h
  · next hends =>
    rw [not_or, Bool.not_eq_false] at hends
    split at h <;> cases h <;> exact ⟨rfl, hends.2⟩

/-- Reads the port, if there is one, and what follows. -/
def readAfterHost (scheme : List Char) (host : Host) :
    List Char → Except Fault (Option Host × Option Nat × List Char)
  | ':' :: digits => (readPort scheme digits).map fun (port, rest) => (some host, port, rest)
  | rest => .ok (some host, none, rest)

theorem readAfterHost_of_ne {scheme rest : List Char} {host : Host}
    (h : rest.head?.all (endsAuthority .web) = true) :
    readAfterHost scheme host rest = .ok (some host, none, rest) := by
  rw [readAfterHost]
  rintro digits rfl
  simp [endsAuthority, isSlash] at h

/-- After the host stands a port, or what ends the part that names the host. -/
theorem colon_or_end {cs : List Char}
    (h : cs.head?.all (fun c => c == ':' || endsAuthority .web c) = true) :
    (∃ digits, cs = ':' :: digits) ∨ cs.head?.all (endsAuthority .web) = true := by
  cases cs with
  | nil => exact .inr rfl
  | cons c cs =>
    rw [List.head?_cons, Option.all_some, Bool.or_eq_true, beq_iff_eq] at h
    rcases h with rfl | h
    · exact .inl ⟨cs, rfl⟩
    · exact .inr h

theorem readAfterHost_append {scheme cs more : List Char} {host : Host}
    (hhead : cs.head?.all (fun c => c == ':' || endsAuthority .web c) = true)
    (h : EndsHost cs more) :
    readAfterHost scheme host (cs ++ more) =
      (readAfterHost scheme host cs).map fun (host, port, rest) => (host, port, rest ++ more) := by
  rcases colon_or_end hhead with ⟨digits, rfl⟩ | hend
  · have hdigits : EndsHost digits more := h.of_cons (by decide)
    rw [List.cons_append, readAfterHost, readAfterHost, readPort_append scheme hdigits]
    cases readPort scheme digits <;> rfl
  · have hboth : (cs ++ more).head?.all (endsAuthority .web) = true := by
      cases cs with
      | nil => exact h.resolve_left (by simp)
      | cons c cs => exact hend
    rw [readAfterHost_of_ne hend, readAfterHost_of_ne hboth]
    rfl

theorem readAfterHost_spec {scheme cs rest : List Char} {host : Host} {host? : Option Host}
    {port : Option Nat} (hhead : cs.head?.all (fun c => c == ':' || endsAuthority .web c) = true)
    (h : readAfterHost scheme host cs = .ok (host?, port, rest)) :
    ∃ front, cs = front ++ rest ∧ (∀ c ∈ front, endsAuthority .web c = false) ∧
      rest.head?.all (endsAuthority .web) = true := by
  rcases colon_or_end hhead with ⟨digits, rfl⟩ | hend
  · rw [readAfterHost] at h
    cases hport : readPort scheme digits with
    | error fault => rw [hport] at h; cases h
    | ok read =>
      rw [hport] at h
      cases h
      obtain ⟨hdrop, hend⟩ := readPort_spec hport
      refine ⟨':' :: digits.takeWhile Char.isDigit, ?_, ?_, hend⟩
      · rw [hdrop, List.cons_append, List.takeWhile_append_dropWhile]
      · intro c hc
        rcases List.mem_cons.mp hc with rfl | hc
        · decide
        · have hdigit : c.isDigit = true := List.all_eq_true.mp (List.all_takeWhile ..) c hc
          refine Bool.eq_false_iff.mpr fun hend => ?_
          rw [not_isDigit_of_endsAuthority hend] at hdigit
          exact Bool.noConfusion hdigit
  · rw [readAfterHost_of_ne hend] at h
    cases h
    exact ⟨[], rfl, by simp, hend⟩

/-- Reads the host and the port where no user is named. -/
def readHost (scheme cs : List Char) : Except Fault (Option Host × Option Nat × List Char) :=
  let (text, rest) := splitHost .web false cs
  if text.isEmpty then .error .emptyHost
  else (Host.ofName text).bind fun host => readAfterHost scheme host rest

/-- On the web a host is never empty, so whether a user is named does not matter. -/
theorem readAuthority_web (scheme cs : List Char) :
    readAuthority scheme .web cs = (dropUser .web cs).bind fun (_, cs) => readHost scheme cs := by
  rw [readAuthority]
  cases dropUser .web cs with
  | error fault => rfl
  | ok found =>
    obtain ⟨hasUser, cs⟩ := found
    simp only [Except.bind, bind, readHost]
    cases hsplit : splitHost .web false cs with
    | mk text rest =>
      cases htext : text.isEmpty with
      | true => simp
      | false =>
        simp only [Bool.false_eq_true, false_and, if_false, reduceCtorEq, pure, Except.pure]
        cases Host.ofName text with
        | error fault => rfl
        | ok host =>
          dsimp only
          split
          · next digits => rw [readAfterHost]; cases readPort scheme digits <;> rfl
          · next hport => rw [readAfterHost]; exact hport

/-- The part of a text that names its host says the same in a longer text. -/
theorem readHost_append {cs more : List Char} (scheme : List Char) (h : EndsHost cs more) :
    readHost scheme (cs ++ more) =
      (readHost scheme cs).map fun (host, port, rest) => (host, port, rest ++ more) := by
  obtain ⟨hsum, hfree, hhead⟩ := splitHost_spec cs false
  have hrest : EndsHost (splitHost .web false cs).2 more :=
    EndsHost.of_append (by rw [← hsum]; exact h) hfree
  have hsplit : splitHost .web false (cs ++ more) =
      ((splitHost .web false cs).1, (splitHost .web false cs).2 ++ more) := by
    apply splitHost_append
    refine hrest.imp_left fun hany hnil => ?_
    rw [hnil] at hany
    cases hany
  rw [readHost, readHost, hsplit]
  generalize splitHost .web false cs = parts at hhead hrest
  dsimp only at hhead hrest ⊢
  split
  · rfl
  · cases Host.ofName parts.1 with
    | error fault => rfl
    | ok host => exact readAfterHost_append hhead hrest

/-- What is left after the host and the port is empty, or begins with what ends them. -/
theorem readHost_spec {scheme cs rest : List Char} {host : Option Host} {port : Option Nat}
    (h : readHost scheme cs = .ok (host, port, rest)) :
    ∃ front, cs = front ++ rest ∧ (∀ c ∈ front, endsAuthority .web c = false) ∧
      rest.head?.all (endsAuthority .web) = true := by
  obtain ⟨hsum, hfree, hhead⟩ := splitHost_spec cs false
  rw [readHost] at h
  generalize splitHost .web false cs = parts at hsum hfree hhead h
  dsimp only at h
  split at h
  · cases h
  · cases hname : Host.ofName parts.1 with
    | error fault => rw [hname] at h; cases h
    | ok found =>
      rw [hname] at h
      obtain ⟨front, hfront, hfree', hend⟩ := readAfterHost_spec hhead h
      refine ⟨parts.1 ++ front, by rw [List.append_assoc, ← hfront, ← hsum], ?_, hend⟩
      intro c hc
      rcases List.mem_append.mp hc with hc | hc
      · exact hfree c hc
      · exact hfree' c hc

/-! ## User -/

/-- The text that names the host, and the text from where the path begins. -/
def authority (cs : List Char) : List Char := cs.takeWhile (!endsAuthority .web ·)

/-- Where nothing ends the authority it is the whole text. -/
theorem authority_of_free {cs : List Char} (h : ∀ c ∈ cs, endsAuthority .web c = false) :
    authority cs = cs ∧ cs.dropWhile (!endsAuthority .web ·) = [] := by
  have hstay : ∀ c ∈ cs, (!endsAuthority .web c) = true := fun c hc => by rw [h c hc]; rfl
  exact ⟨List.takeWhile_eq_self_iff.mpr hstay, List.dropWhile_eq_nil_iff.mpr hstay⟩

theorem authority_append_rest (cs : List Char) :
    authority cs ++ cs.dropWhile (!endsAuthority .web ·) = cs :=
  List.takeWhile_append_dropWhile

theorem not_endsAuthority_of_mem_authority {cs : List Char} {c : Char} (h : c ∈ authority cs) :
    endsAuthority .web c = false := by
  have hc := List.all_eq_true.mp (List.all_takeWhile (p := (!endsAuthority .web ·)) ..) c h
  exact (Bool.not_eq_true' _).mp hc

/-- The user's name and password with the at-sign, and the rest, which is the host. -/
theorem exists_user_append_host (cs : List Char) :
    ∃ user, cs = user ++ (cs.reverse.takeWhile (· != '@')).reverse ∧
      cs.take (cs.length - (cs.reverse.takeWhile (· != '@')).reverse.length) = user := by
  have hparts := congrArg List.reverse
    (List.takeWhile_append_dropWhile (p := (· != '@')) (l := cs.reverse))
  rw [List.reverse_reverse, List.reverse_append] at hparts
  refine ⟨(cs.reverse.dropWhile (· != '@')).reverse, hparts.symm, ?_⟩
  generalize (cs.reverse.takeWhile (· != '@')).reverse = host at hparts ⊢
  generalize (cs.reverse.dropWhile (· != '@')).reverse = user at hparts ⊢
  subst hparts
  rw [List.length_append, Nat.add_sub_cancel, List.take_left]

/-- Dropping a user leaves the end of the text. -/
theorem dropUser_spec {cs rest : List Char} {hasUser : Bool}
    (h : dropUser .web cs = .ok (hasUser, rest)) :
    ∃ front, cs = front ++ rest ∧ ∀ c ∈ front, endsAuthority .web c = false := by
  obtain ⟨user, hsum, htake⟩ := exists_user_append_host (authority cs)
  have hfree : ∀ c ∈ user, endsAuthority .web c = false := fun c hc =>
    not_endsAuthority_of_mem_authority (by rw [hsum]; exact List.mem_append_left _ hc)
  have hcs : cs = user ++ (((authority cs).reverse.takeWhile (· != '@')).reverse ++
      cs.dropWhile (!endsAuthority .web ·)) := by
    rw [← List.append_assoc, ← hsum, authority_append_rest]
  rw [dropUser, ← authority, htake] at h
  split at h
  · cases h
    exact ⟨[], rfl, by simp⟩
  · split at h
    · split at h <;> cases h
      exact ⟨user, hcs, hfree⟩
    · cases h
      exact ⟨user, hcs, hfree⟩

/-- What a text says of the host and the port it says in a longer text, if the part that names them
ends before the text goes on, or where it goes on. -/
theorem readAuthority_append {cs more : List Char} (scheme : List Char) (h : EndsHost cs more) :
    readAuthority scheme .web (cs ++ more) =
      (readAuthority scheme .web cs).map fun (host, port, rest) => (host, port, rest ++ more) := by
  have hend : ∀ c, endsAuthority .web c = true → (!endsAuthority .web c) = false := by simp
  have hauthority : authority (cs ++ more) = authority cs := h.takeWhile_append hend
  have hdropped := (h.of_dropWhile hend).append_left
    ((authority cs).reverse.takeWhile (· != '@')).reverse
  rw [readAuthority_web, readAuthority_web, dropUser, dropUser]
  dsimp only
  rw [← authority, ← authority, hauthority, h.dropWhile_append hend]
  generalize cs.dropWhile (!endsAuthority .web ·) = rest at hdropped ⊢
  generalize ((authority cs).reverse.takeWhile (· != '@')).reverse = host at hdropped ⊢
  have hlonger := readHost_append scheme hdropped
  rw [List.append_assoc] at hlonger
  split
  · exact readHost_append scheme h
  · split
    · by_cases hempty : host.isEmpty = true
      · -- without a host both are refused, if not for the lone at-sign then for the empty host
        have hnone : readHost scheme [] = .error .emptyHost := rfl
        cases host with
        | cons c host => cases hempty
        | nil =>
          cases rest with
          | cons c rest => simp [Except.bind, Except.map]
          | nil => cases more <;> simp [Except.bind, Except.map, hnone]
      · simp only [hempty, Bool.false_eq_true, false_and, if_false]
        exact hlonger
    · exact hlonger

/-- What is left after the host and the port is empty, or begins with what ends them. -/
theorem readAuthority_spec {scheme cs rest : List Char} {host : Option Host} {port : Option Nat}
    (h : readAuthority scheme .web cs = .ok (host, port, rest)) :
    ∃ front, cs = front ++ rest ∧ (∀ c ∈ front, endsAuthority .web c = false) ∧
      rest.head?.all (endsAuthority .web) = true := by
  rw [readAuthority_web] at h
  cases huser : dropUser .web cs with
  | error fault => rw [huser] at h; cases h
  | ok found =>
    rw [huser] at h
    obtain ⟨front, hfront, hfree⟩ := dropUser_spec huser
    obtain ⟨front', hfront', hfree', hend⟩ := readHost_spec h
    refine ⟨front ++ front', by rw [List.append_assoc, ← hfront', ← hfront], ?_, hend⟩
    intro c hc
    rcases List.mem_append.mp hc with hc | hc
    · exact hfree c hc
    · exact hfree' c hc

end EdgeConsole.Web.Url
