import EdgeConsole.Proofs.Web.Front
import EdgeConsole.Proofs.Web.Host

/-!
# URLs of texts that go on

A text that is a URL of the web has a `Front`: scheme, host and port, and the text from where the
path begins. A longer text has the same front with more text behind it (`Front.IsOf.append`), as
long as the path has begun, or begins where the text goes on.

There is one way to go on that no front survives: blanks behind a host are taken into the host, and
no host ends in a blank (`Front.IsOf.not_append_blanks`).

`Front.url_extend` reads the URL of a front with segments behind it off the segments: they are
resolved together with those that the front has already.
-/

namespace EdgeConsole.Web.Url

open Text (splitWhere splitWhere_append_sep)

/-! ## Fronts -/

/-- What a URL of the web says in front of its path, and the text from where the path begins. -/
structure Front where
  scheme : List Char
  host : Option Host
  port : Option Nat
  rest : List Char

namespace Front

/-- The URL with this front. -/
def url (f : Front) : Url := withPath f.scheme .web f.host f.port f.rest

/-- The same front with more text behind it. -/
def extend (f : Front) (more : List Char) : Front := { f with rest := f.rest ++ more }

/-- The clean text has this front. -/
structure IsOf (f : Front) (cs : List Char) : Prop where
  web : schemeKind f.scheme = .web
  read : ∃ after, splitScheme? cs = some (f.scheme, after) ∧
    readAuthority f.scheme .web (after.dropWhile (isSlash .web)) = .ok (f.host, f.port, f.rest)

theorem IsOf.ofText {f : Front} {s : String} (h : f.IsOf (clean s.toList)) :
    Url.ofText s = .ok f.url := by
  obtain ⟨after, hscheme, hread⟩ := h.read
  simp only [Url.ofText, hscheme, h.web, hread]
  rfl

end Front

theorem readFile_scheme {scheme cs : List Char} {u : Url} (h : readFile scheme cs = .ok u) :
    u.scheme = scheme := by
  rw [readFile.eq_def] at h
  split at h
  · next a b rest =>
    split at h
    · dsimp only at h
      split at h
      · cases h; rfl
      · split at h
        · cases h; rfl
        · cases hname : Host.ofName (rest.takeWhile (!endsAuthority .file ·)) with
          | error fault => rw [hname] at h; cases h
          | ok host => rw [hname] at h; cases h; rfl
    · cases h; rfl
  · cases h; rfl

/-- A URL has the scheme that its text begins with. -/
theorem ofText_scheme {s : String} {u : Url} (h : ofText s = .ok u) :
    ∃ after, splitScheme? (clean s.toList) = some (u.scheme, after) := by
  rw [ofText] at h
  cases hsplit : splitScheme? (clean s.toList) with
  | none => rw [hsplit] at h; cases h
  | some parts =>
    obtain ⟨scheme, after⟩ := parts
    rw [hsplit] at h
    refine ⟨after, ?_⟩
    suffices u.scheme = scheme by rw [this]
    dsimp only at h
    split at h
    · cases hread : readAuthority scheme .web (after.dropWhile (isSlash .web)) with
      | error fault => rw [hread] at h; cases h
      | ok parts => rw [hread] at h; cases h; rfl
    · exact readFile_scheme h
    · split at h
      · next rest =>
        cases hread : readAuthority scheme .other rest with
        | error fault => rw [hread] at h; cases h
        | ok parts => rw [hread] at h; cases h; rfl
      · cases h; rfl
      · cases h; rfl

/-- Every URL of the web is the URL of a front of its text. -/
theorem exists_front {s : String} {u : Url} (h : ofText s = .ok u)
    (hweb : schemeKind u.scheme = .web) :
    ∃ f : Front, f.IsOf (clean s.toList) ∧ u = f.url := by
  obtain ⟨after, hsplit⟩ := ofText_scheme h
  rw [ofText, hsplit] at h
  simp only [hweb] at h
  cases hread : readAuthority u.scheme .web (after.dropWhile (isSlash .web)) with
  | error fault => rw [hread] at h; cases h
  | ok parts =>
    obtain ⟨host, port, rest⟩ := parts
    rw [hread] at h
    exact ⟨⟨u.scheme, host, port, rest⟩, ⟨hweb, after, hsplit, hread⟩, (Except.ok.inj h).symm⟩

namespace Front

/-- There is no authority in a text of slashes. -/
theorem readAuthority_nil (scheme : List Char) : readAuthority scheme .web [] = .error .emptyHost :=
  rfl

theorem dropWhile_slash_append {after more : List Char}
    (h : after.dropWhile (isSlash .web) ≠ []) :
    (after ++ more).dropWhile (isSlash .web) = after.dropWhile (isSlash .web) ++ more := by
  rw [List.dropWhile_append, if_neg]
  rw [List.isEmpty_iff]
  exact h

/-- What a text says in front it says in a longer text. -/
theorem IsOf.append {f : Front} {cs more : List Char} (h : f.IsOf cs)
    (hends : f.rest ≠ [] ∨ more.head?.all (endsAuthority .web) = true) :
    (f.extend more).IsOf (cs ++ more) := by
  obtain ⟨after, hscheme, hread⟩ := h.read
  have hne : after.dropWhile (isSlash .web) ≠ [] := by
    intro hnil
    rw [hnil, readAuthority_nil] at hread
    cases hread
  have hhost : EndsHost (after.dropWhile (isSlash .web)) more := by
    refine hends.imp_left fun hrest => ?_
    obtain ⟨front, hparts, -, hhead⟩ := readAuthority_spec hread
    rw [hparts, List.any_append, Bool.or_eq_true]
    right
    cases hcases : f.rest with
    | nil => exact absurd hcases hrest
    | cons c rest =>
      rw [hcases] at hhead
      rw [List.any_cons, Bool.or_eq_true]
      exact .inl hhead
  refine ⟨h.web, after ++ more, splitScheme?_append hscheme more, ?_⟩
  rw [dropWhile_slash_append hne]
  exact (readAuthority_append f.scheme hhost).trans (by rw [hread]; rfl)

/-- Text that goes on with a path has the front of what stands before. -/
theorem IsOf.of_append {f : Front} {cs more : List Char} (h : f.IsOf (cs ++ '/' :: more))
    (hmore : ∀ c ∈ more, c = '/') : ∃ g : Front, g.IsOf cs ∧ f = g.extend ('/' :: more) := by
  obtain ⟨after, hscheme, hread⟩ := h.read
  obtain ⟨front, hfront⟩ := exists_splitScheme?_of_append hscheme
  have hafter := hscheme.symm.trans (splitScheme?_append hfront ('/' :: more))
  rw [Option.some.injEq, Prod.mk.injEq] at hafter
  obtain ⟨-, rfl⟩ := hafter
  have hslashes : ('/' :: more).dropWhile (isSlash .web) = [] := by
    have hall : ∀ c ∈ '/' :: more, isSlash .web c = true := by
      intro c hc
      rcases List.mem_cons.mp hc with rfl | hc
      · rfl
      · rw [hmore c hc]
        rfl
    exact List.dropWhile_eq_nil_iff.mpr hall
  have hne : front.dropWhile (isSlash .web) ≠ [] := by
    intro hnil
    rw [List.dropWhile_append, hnil, List.isEmpty_nil, if_pos rfl, hslashes, readAuthority_nil] at hread
    cases hread
  rw [dropWhile_slash_append hne, readAuthority_append f.scheme (.inr rfl)] at hread
  cases hshort : readAuthority f.scheme .web (front.dropWhile (isSlash .web)) with
  | error fault => rw [hshort] at hread; cases hread
  | ok parts =>
    obtain ⟨host, port, rest⟩ := parts
    rw [hshort] at hread
    obtain ⟨scheme, host', port', rest'⟩ := f
    cases hread
    exact ⟨⟨scheme, _, _, rest⟩, ⟨h.web, front, hfront, hshort⟩, rfl⟩

end Front

/-! ## Blanks behind a host -/

section Blanks

variable {c : Char} {blanks : List Char}

/-- A blank or a control has no meaning where a host is named. -/
theorem ne_of_isEdge {d : Char} (hc : isEdge c = true) (hd : 0x20 < d.toNat) : c ≠ d := by
  rintro rfl
  have hle : c.toNat ≤ 0x20 := of_decide_eq_true hc
  omega

theorem not_endsAuthority_of_isEdge (hc : isEdge c = true) : endsAuthority .web c = false := by
  have hslash := ne_of_isEdge (d := '/') hc (by decide)
  have hback := ne_of_isEdge (d := '\\') hc (by decide)
  have hquery := ne_of_isEdge (d := '?') hc (by decide)
  have hfragment := ne_of_isEdge (d := '#') hc (by decide)
  simp only [endsAuthority, isSlash, beq_eq_false_iff_ne.mpr hslash,
    beq_eq_false_iff_ne.mpr hback, beq_eq_false_iff_ne.mpr hquery,
    beq_eq_false_iff_ne.mpr hfragment, Bool.and_false, Bool.or_self]

variable (hne : blanks ≠ []) (hblank : ∀ c ∈ blanks, isEdge c = true)
include hne hblank

theorem readPort_append_blanks {cs : List Char} (scheme : List Char)
    (h : cs.dropWhile Char.isDigit = []) :
    readPort scheme (cs ++ blanks) = .error .invalidPort := by
  have hrest : (cs ++ blanks).dropWhile Char.isDigit = blanks ∧
      blanks.head?.all (endsAuthority .web) = false := by
    cases blanks with
    | nil => exact absurd rfl hne
    | cons c blanks =>
      have hc := hblank c List.mem_cons_self
      have hdigit : c.isDigit = false := by
        refine Bool.eq_false_iff.mpr fun hdigit => ?_
        have hlow : c.toNat ≤ 0x20 := of_decide_eq_true hc
        rw [Char.isDigit, Bool.and_eq_true, decide_eq_true_eq, ge_iff_le] at hdigit
        have hfirst : 48 ≤ c.toNat := hdigit.1
        omega
      refine ⟨?_, not_endsAuthority_of_isEdge hc⟩
      rw [List.dropWhile_append, h, List.isEmpty_nil, if_pos rfl, List.dropWhile_cons_of_neg]
      rw [hdigit]
      decide
  rw [readPort_eq]
  dsimp only
  rw [hrest.1, hrest.2, if_pos (.inr rfl)]

theorem ofName_append_blanks (cs : List Char) :
    ∃ fault, Host.ofName (cs ++ blanks) = .error fault := by
  have hparts := (List.dropLast_concat_getLast hne).symm
  rw [hparts, ← List.append_assoc]
  exact ofName_append_edge (hblank _ (List.getLast_mem hne)) _

/-- Blanks behind a host are taken into the host or into the port, and both are refused. -/
theorem readHost_append_blanks {scheme cs : List Char} {host : Option Host} {port : Option Nat}
    (h : readHost scheme cs = .ok (host, port, [])) :
    ∃ fault, readHost scheme (cs ++ blanks) = .error fault := by
  obtain ⟨-, -, hhead⟩ := splitHost_spec cs false
  have hfree : ∀ c ∈ blanks, c ≠ ':' ∧ endsAuthority .web c = false := fun c hc =>
    ⟨ne_of_isEdge (hblank c hc) (by decide), not_endsAuthority_of_isEdge (hblank c hc)⟩
  rw [readHost] at h ⊢
  by_cases hrest : (splitHost .web false cs).2 = []
  · rw [splitHost_append_of_free hfree hrest]
    dsimp only
    split
    · exact ⟨_, rfl⟩
    · obtain ⟨fault, hfault⟩ := ofName_append_blanks hne hblank cs
      exact ⟨fault, by rw [hfault]; rfl⟩
  · rw [splitHost_append (.inl hrest)]
    generalize splitHost .web false cs = parts at hhead hrest h
    dsimp only at hhead hrest h ⊢
    split
    · exact ⟨_, rfl⟩
    · next htext =>
      rw [if_neg htext] at h
      cases hname : Host.ofName parts.1 with
      | error fault => exact ⟨fault, rfl⟩
      | ok found =>
        rw [hname] at h
        change readAfterHost scheme found parts.2 = _ at h
        rcases colon_or_end hhead with ⟨digits, hdigits⟩ | hend
        · rw [hdigits, readAfterHost] at h
          cases hport : readPort scheme digits with
          | error fault => rw [hport] at h; cases h
          | ok read =>
            obtain ⟨found?, rest⟩ := read
            rw [hport] at h
            obtain rfl : rest = [] := congrArg (·.2.2) (Except.ok.inj h)
            have hnone := (readPort_spec hport).1.symm
            refine ⟨.invalidPort, ?_⟩
            rw [hdigits]
            change readAfterHost scheme found (':' :: (digits ++ blanks)) = _
            rw [readAfterHost, readPort_append_blanks hne hblank scheme hnone]
            rfl
        · rw [readAfterHost_of_ne hend] at h
          exact absurd (congrArg (·.2.2) (Except.ok.inj h)) hrest

theorem readAuthority_append_blanks {scheme cs : List Char} {host : Option Host}
    {port : Option Nat} (h : readAuthority scheme .web cs = .ok (host, port, [])) :
    ∃ fault, readAuthority scheme .web (cs ++ blanks) = .error fault := by
  obtain ⟨front, hparts, hfree, -⟩ := readAuthority_spec h
  rw [List.append_nil] at hparts
  subst hparts
  have hfree' : ∀ c ∈ cs ++ blanks, endsAuthority .web c = false := by
    intro c hc
    rcases List.mem_append.mp hc with hc | hc
    · exact hfree c hc
    · exact not_endsAuthority_of_isEdge (hblank c hc)
  obtain ⟨user, hsum, huser⟩ := exists_user_append_host cs
  obtain ⟨user', hsum', huser'⟩ := exists_user_append_host (cs ++ blanks)
  have hhost : ((cs ++ blanks).reverse.takeWhile (· != '@')).reverse =
      (cs.reverse.takeWhile (· != '@')).reverse ++ blanks := by
    rw [List.reverse_append, List.takeWhile_append_of_pos, List.reverse_append,
      List.reverse_reverse]
    intro c hc
    exact bne_iff_ne.mpr (ne_of_isEdge (hblank c (List.mem_reverse.mp hc)) (by decide))
  rw [hhost, ← List.append_assoc] at hsum'
  obtain rfl : user = user' := List.append_cancel_right
    (hsum.symm.trans (List.append_cancel_right hsum'))
  rw [readAuthority_web, dropUser] at h ⊢
  dsimp only at h ⊢
  rw [← authority, (authority_of_free hfree).1, (authority_of_free hfree).2, huser] at h
  rw [← authority, (authority_of_free hfree').1, (authority_of_free hfree').2, huser', hhost]
  by_cases hnone : user.isEmpty = true
  · rw [if_pos hnone] at h ⊢
    exact readHost_append_blanks hne hblank h
  · rw [if_neg hnone] at h ⊢
    rw [List.append_nil] at h ⊢
    have hlater {hasUser hasUser' : Bool} {ds : List Char}
        (h : (Except.ok (hasUser, ds) : Except Fault (Bool × List Char)).bind
          (fun parts => readHost scheme parts.2) = .ok (host, port, [])) :
        ∃ fault, (Except.ok (hasUser', ds ++ blanks) : Except Fault (Bool × List Char)).bind
          (fun parts => readHost scheme parts.2) = .error fault :=
      readHost_append_blanks hne hblank h
    by_cases hat : user = ['@']
    · simp only [hat, if_true, List.isEmpty_nil, Bool.not_true, Bool.false_eq_true, and_false,
        if_false] at h ⊢
      exact hlater h
    · simp only [hat, if_false] at h ⊢
      exact hlater h

end Blanks

namespace Front

/-- No text has a front in which blanks stand behind the host. -/
theorem IsOf.not_append_blanks {f g : Front} {cs blanks more : List Char} (h : f.IsOf cs)
    (hrest : f.rest = []) (hne : blanks ≠ []) (hblank : ∀ c ∈ blanks, isEdge c = true)
    (hmore : more.head?.all (endsAuthority .web) = true) : ¬ g.IsOf (cs ++ (blanks ++ more)) := by
  intro hg
  obtain ⟨after, hscheme, hread⟩ := h.read
  obtain ⟨after', hscheme', hread'⟩ := hg.read
  have hparts := hscheme'.symm.trans (splitScheme?_append hscheme (blanks ++ more))
  rw [Option.some.injEq, Prod.mk.injEq] at hparts
  obtain ⟨hsame, rfl⟩ := hparts
  have hhost : after.dropWhile (isSlash .web) ≠ [] := by
    intro hnil
    rw [hnil, readAuthority_nil] at hread
    cases hread
  rw [hrest] at hread
  obtain ⟨fault, hfault⟩ := readAuthority_append_blanks hne hblank hread
  rw [hsame, dropWhile_slash_append hhost, ← List.append_assoc,
    readAuthority_append f.scheme (.inr hmore), hfault] at hread'
  cases hread'

/-! ## Paths behind a front -/

/-- The text before the path holds nothing that ends a path, and the path begins with a slash. -/
theorem IsOf.exists_append {f : Front} {cs : List Char} (h : f.IsOf cs) :
    ∃ front, cs = front ++ f.rest ∧ (∀ c ∈ front, endsPath c = false) ∧
      f.rest.head?.all (endsAuthority .web) = true := by
  obtain ⟨after, hscheme, hread⟩ := h.read
  obtain ⟨word, rfl, hword, -, -⟩ := splitScheme?_eq_some.mp hscheme
  obtain ⟨host, hafter, hhost, hhead⟩ := readAuthority_spec hread
  refine ⟨word ++ ':' :: (after.takeWhile (isSlash .web) ++ host), ?_, ?_, hhead⟩
  · rw [List.append_assoc, List.cons_append, List.append_assoc, ← hafter,
      List.takeWhile_append_dropWhile]
  · intro c hc
    refine Bool.eq_false_iff.mpr fun hends => ?_
    have hmark : c = '?' ∨ c = '#' := by
      simpa only [endsPath, Bool.or_eq_true, beq_iff_eq] using hends
    rw [List.mem_append, List.mem_cons, List.mem_append] at hc
    rcases hc with hc | rfl | hc | hc
    · have hchar := hword c hc
      rcases hmark with rfl | rfl <;> exact absurd hchar (by decide)
    · exact absurd hends (by decide)
    · have hslash := List.all_eq_true.mp (List.all_takeWhile ..) c hc
      rcases hmark with rfl | rfl <;> exact absurd hslash (by decide)
    · have hfree := hhost c hc
      rcases hmark with rfl | rfl <;> exact absurd hfree (by decide)

/-- There is neither a query nor a fragment. -/
structure IsPath (f : Front) : Prop where
  slash : f.rest.head?.all (isSlash .web) = true
  free : ∀ c ∈ f.rest, endsPath c = false

theorem IsPath.isSlash_of_rest {f : Front} (h : f.IsPath) {c : Char} {rest : List Char}
    (hrest : f.rest = c :: rest) : isSlash .web c = true := by
  have hslash := h.slash
  rw [hrest] at hslash
  exact hslash

theorem IsOf.isPath {f : Front} {cs : List Char} (h : f.IsOf cs)
    (hfree : ∀ c ∈ f.rest, endsPath c = false) : f.IsPath := by
  obtain ⟨-, -, -, hhead⟩ := h.exists_append
  refine ⟨?_, hfree⟩
  cases hcases : f.rest with
  | nil => rfl
  | cons c rest =>
    rw [hcases] at hhead hfree
    have hends : (isSlash .web c || c == '?' || c == '#') = true := hhead
    have hc : (c == '?' || c == '#') = false := hfree c List.mem_cons_self
    rw [Bool.or_assoc, hc, Bool.or_false] at hends
    exact hends

/-- The segments of a front as they are written. -/
def segments (f : Front) : List (List Char) :=
  match f.rest with
  | [] => []
  | _ :: rest => splitWhere (isSlash .web) rest

end Front

/-- The text of a query with its question mark. -/
def searched : Option (List Char) → List Char
  | none => []
  | some q => '?' :: q

theorem endsPath_of_isPathChar {c : Char} (h : isPathChar c = true) : endsPath c = false := by
  refine Bool.eq_false_iff.mpr fun hends => ?_
  simp only [endsPath, Bool.or_eq_true, beq_iff_eq] at hends
  rcases hends with rfl | rfl <;> exact absurd h (by decide)

theorem endsPath_of_mem_joined {segs : List (List Char)} (h : ∀ s ∈ segs, IsSegment s) {c : Char}
    (hc : c ∈ joined segs) : endsPath c = false := by
  obtain ⟨s, hs, hmem⟩ := List.mem_flatMap.mp hc
  rcases List.mem_cons.mp hmem with rfl | hmem
  · rfl
  · exact endsPath_of_isPathChar ((h s hs).pathChars c hmem)

namespace Front

theorem readSegments_rest {f : Front} (h : f.IsPath) {segs : List (List Char)} (hne : segs ≠ [])
    (hsegs : ∀ s ∈ segs, IsSegment s) :
    readSegments .web (f.rest ++ joined segs) = resolve [] (f.segments ++ segs) := by
  cases segs with
  | nil => exact absurd rfl hne
  | cons s segs =>
    have hback : splitWhere (isSlash .web) (s ++ joined segs) = s :: segs :=
      splitWhere_joined rfl fun t ht => (hsegs t ht).slashFree
    rw [joined_cons, segments]
    cases hrest : f.rest with
    | nil =>
      rw [List.nil_append, List.nil_append, readSegments, if_pos (by rfl), hback]
    | cons c rest =>
      have hc : isSlash .web c = true := h.isSlash_of_rest hrest
      rw [List.cons_append, readSegments, if_pos hc, splitWhere_append_sep (by rfl), hback]

/-- The URL of a front with segments behind it, and perhaps a query. -/
theorem url_extend {f : Front} (h : f.IsPath) {segs : List (List Char)} (hne : segs ≠ [])
    (hsegs : ∀ s ∈ segs, IsSegment s) {search? : Option (List Char)}
    (hsearch : ∀ q ∈ search?, ∀ c ∈ q, isQueryChar .web c = true) :
    (f.extend (joined segs ++ searched search?)).url =
      ⟨f.scheme, f.host, f.port, .segments (resolve [] (f.segments ++ segs)), search?⟩ := by
  have hstay : ∀ c ∈ f.rest ++ joined segs, (!endsPath c) = true := by
    intro c hc
    rcases List.mem_append.mp hc with hc | hc
    · rw [h.free c hc]
      rfl
    · rw [endsPath_of_mem_joined hsegs hc]
      rfl
  have hquery : (searched search?).takeWhile (!endsPath ·) = [] ∧
      (searched search?).dropWhile (!endsPath ·) = searched search? := by
    cases search? <;> exact ⟨rfl, rfl⟩
  have hread : readQuery .web (searched search?) = search? := by
    cases search? with
    | none => rfl
    | some q =>
      have hq := hsearch q rfl
      have hhash : ∀ c ∈ q, (c != '#') = true := by
        intro c hc
        refine bne_iff_ne.mpr ?_
        rintro rfl
        exact absurd (hq _ hc) (by decide)
      rw [searched, readQuery, List.takeWhile_eq_self_iff.mpr hhash, percentEncode_eq_self hq]
  rw [url, withPath]
  change Url.mk _ _ _ (.segments (readSegments .web
    ((f.rest ++ (joined segs ++ searched search?)).takeWhile (!endsPath ·))))
    (readQuery .web ((f.rest ++ (joined segs ++ searched search?)).dropWhile (!endsPath ·))) = _
  rw [← List.append_assoc, List.takeWhile_append_of_pos hstay, List.dropWhile_append_of_pos hstay,
    hquery.1, hquery.2, List.append_nil, hread, readSegments_rest h hne hsegs]
  rfl

/-- No character of a path ends it. -/
theorem endsPath_of_mem_pathChars {f : Front} {c : Char} (h : c ∈ f.url.pathChars) :
    endsPath c = false := by
  obtain ⟨s, hs, hmem⟩ := List.mem_flatMap.mp h
  rcases List.mem_cons.mp hmem with rfl | hmem
  · rfl
  · rw [readSegments.eq_def] at hs
    split at hs
    · obtain rfl := List.mem_singleton.mp hs
      cases hmem
    · exact endsPath_of_isPathChar (isPathChar_of_mem_resolve _ s hs c hmem)

/-- Plain segments stand behind what stays of the segments that the front has. -/
theorem pathChars_extend {f : Front} (h : f.IsPath) {segs : List (List Char)} (hne : segs ≠ [])
    (hsegs : ∀ s ∈ segs, IsPlain s) {search? : Option (List Char)}
    (hsearch : ∀ q ∈ search?, ∀ c ∈ q, isQueryChar .web c = true) :
    (f.extend (joined segs ++ searched search?)).url.pathChars =
      joined (settled f.segments) ++ joined segs := by
  rw [url_extend h hne (fun s hs => (hsegs s hs).toIsSegment) hsearch, pathChars,
    resolve_append_of_isPlain hne hsegs, ← joined_append]
  rfl

theorem pathChars_extend_joined {f : Front} (h : f.IsPath) {segs : List (List Char)}
    (hne : segs ≠ []) (hsegs : ∀ s ∈ segs, IsPlain s) :
    (f.extend (joined segs)).url.pathChars = joined (settled f.segments) ++ joined segs := by
  have hsearch : ∀ q ∈ (none : Option (List Char)), ∀ c ∈ q, isQueryChar .web c = true := by simp
  have hpath := pathChars_extend h hne hsegs hsearch
  rw [searched, List.append_nil] at hpath
  exact hpath

theorem pathChars_url {f : Front} (h : f.IsPath) :
    f.url.pathChars = joined (readSegments .web f.rest) := by
  have hstay : ∀ c ∈ f.rest, (!endsPath c) = true := fun c hc => by rw [h.free c hc]; rfl
  rw [url, withPath, pathChars]
  exact congrArg (fun cs => joined (readSegments .web cs)) (List.takeWhile_eq_self_iff.mpr hstay)

/-- The path of a front is what stays of its segments, and slashes. -/
theorem exists_pathChars_url {f : Front} (h : f.IsPath) :
    ∃ n, f.url.pathChars = joined (settled f.segments) ++ List.replicate n '/' := by
  rw [pathChars_url h]
  cases hrest : f.rest with
  | nil =>
    refine ⟨1, ?_⟩
    rw [segments, hrest]
    rfl
  | cons c rest =>
    have hc : isSlash .web c = true := h.isSlash_of_rest hrest
    have hclosing (segs : List (List Char)) : ∃ n, joined (closing segs) = List.replicate n '/' := by
      rw [closing]
      split
      · exact ⟨1, rfl⟩
      · exact ⟨0, rfl⟩
    obtain ⟨n, hn⟩ := hclosing (splitWhere (isSlash .web) rest)
    refine ⟨n, ?_⟩
    rw [readSegments, if_pos hc, resolve_eq, joined_append, hn, segments, hrest, settled]

/-- Slashes behind a front add only slashes to its path. -/
theorem exists_pathChars_extend {f : Front} (h : f.IsPath) (k : Nat) :
    ∃ n, (f.extend (List.replicate k '/')).url.pathChars =
      joined (settled f.segments) ++ List.replicate n '/' := by
  cases k with
  | zero =>
    have hsame : f.extend (List.replicate 0 '/') = f := by
      rw [extend, List.replicate_zero, List.append_nil]
    rw [hsame]
    exact exists_pathChars_url h
  | succ k =>
    have hsegs : ∀ s ∈ List.replicate (k + 1) ([] : List Char), IsPlain s := by
      intro s hs
      rw [List.eq_of_mem_replicate hs]
      exact isPlain_nil
    have hpath := pathChars_extend_joined h (by simp) hsegs
    rw [joined_replicate_nil] at hpath
    exact ⟨k + 1, hpath⟩

/-- What follows a character that ends a part of a text does not belong to the part. -/
theorem takeWhile_append_of_mem {p : Char → Bool} {cs : List Char} (h : ∃ c ∈ cs, p c = false)
    (more : List Char) : (cs ++ more).takeWhile p = cs.takeWhile p := by
  rw [List.takeWhile_append, if_neg]
  intro hlen
  have hall := (List.takeWhile_prefix _).eq_of_length hlen
  obtain ⟨c, hc, hends⟩ := h
  rw [← hall] at hc
  have hkept := List.all_eq_true.mp (List.all_takeWhile ..) c hc
  rw [hends] at hkept
  exact Bool.noConfusion hkept

/-- Nothing that follows a query or a fragment belongs to the path. -/
theorem pathChars_extend_of_ended {f : Front} (h : ∃ c ∈ f.rest, endsPath c = true)
    (more : List Char) : (f.extend more).url.pathChars = f.url.pathChars := by
  have hended : ∃ c ∈ f.rest, (!endsPath c) = false := by
    obtain ⟨c, hc, hends⟩ := h
    exact ⟨c, hc, by rw [hends]; rfl⟩
  rw [url, url, withPath, withPath, pathChars, pathChars]
  exact congrArg (fun cs => joined (readSegments .web cs)) (takeWhile_append_of_mem hended more)

/-- Nothing that follows a fragment belongs to the query. -/
theorem readQuery_append_of_fragment {cs : List Char} (h : '#' ∈ cs) (more : List Char) :
    readQuery .web ((cs ++ more).dropWhile (!endsPath ·)) =
      readQuery .web (cs.dropWhile (!endsPath ·)) := by
  induction cs with
  | nil => cases h
  | cons c cs ih =>
    rw [List.cons_append, List.dropWhile_cons, List.dropWhile_cons]
    cases hc : endsPath c with
    | false =>
      have hne : '#' ≠ c := by
        rintro rfl
        exact absurd hc (by decide)
      exact ih ((List.mem_cons.mp h).resolve_left hne)
    | true =>
      rw [endsPath, Bool.or_eq_true, beq_iff_eq, beq_iff_eq] at hc
      rcases hc with rfl | rfl
      · have hmem : '#' ∈ cs := (List.mem_cons.mp h).resolve_left (by decide)
        exact congrArg (fun q => some (percentEncode (isQueryChar .web) q))
          (takeWhile_append_of_mem ⟨'#', hmem, rfl⟩ more)
      · rfl

/-- Nothing that follows a fragment belongs to the URL. -/
theorem url_extend_of_fragment {f : Front} (h : '#' ∈ f.rest) (more : List Char) :
    (f.extend more).url = f.url := by
  have hpath : (f.rest ++ more).takeWhile (!endsPath ·) = f.rest.takeWhile (!endsPath ·) :=
    takeWhile_append_of_mem ⟨'#', h, by decide⟩ more
  have hquery := readQuery_append_of_fragment h more
  simp only [url, extend, withPath, hpath, hquery]

/-! ## Blanks behind a path -/

theorem IsPath.extend_blanks {f : Front} (h : f.IsPath) (hrest : f.rest ≠ []) {blanks : List Char}
    (hblank : ∀ c ∈ blanks, isEdge c = true) : (f.extend blanks).IsPath := by
  refine ⟨?_, ?_⟩
  · have hslash := h.slash
    cases hcases : f.rest with
    | nil => exact absurd hcases hrest
    | cons c rest =>
      rw [hcases] at hslash
      rw [extend, hcases]
      exact hslash
  · intro c hc
    rcases List.mem_append.mp hc with hc | hc
    · exact h.free c hc
    · have hends := not_endsAuthority_of_isEdge (hblank c hc)
      rw [endsAuthority, Bool.or_assoc, Bool.or_eq_false_iff] at hends
      exact hends.2

theorem length_joined_concat (above : List (List Char)) (s : List Char) :
    (joined (above ++ [s])).length = (joined above).length + 1 + s.length := by
  rw [joined_append, List.length_append, joined_cons, joined_nil, List.append_nil,
    List.length_cons]
  omega

/-- Entering one more segment makes a path longer by no more than that segment. -/
theorem length_joined_enter (above : List (List Char)) (s : List Char) :
    (joined ((enter above s).reverse ++ closing [s])).length ≤
      (joined above.reverse).length + 1 + (percentEncode isPathChar s).length := by
  have hleave : (joined (leave above).reverse).length ≤ (joined above.reverse).length := by
    cases above with
    | nil => exact Nat.le_refl _
    | cons t above =>
      rw [leave]
      split
      · exact Nat.le_refl _
      · rw [List.reverse_cons, length_joined_concat]
        omega
  have hclosing : closing [s] = if isDotted s then [[]] else [] := rfl
  rw [hclosing, isDotted, enter]
  by_cases hdotdot : isDotDot s = true
  · rw [if_pos hdotdot, hdotdot, Bool.or_true, if_pos rfl, length_joined_concat, List.length_nil]
    omega
  · rw [if_neg hdotdot, Bool.not_eq_true] at *
    rw [hdotdot, Bool.or_false]
    by_cases hdot : isDot s = true
    · rw [if_pos hdot, if_pos hdot, length_joined_concat, List.length_nil]
      omega
    · rw [if_neg hdot, if_neg hdot, List.append_nil, List.reverse_cons, length_joined_concat]

/-- No dotted segment ends in blanks. -/
theorem isDotted_append_blanks {blanks : List Char} (hne : blanks ≠ [])
    (hblank : ∀ c ∈ blanks, isEdge c = true) (s : List Char) : isDotted (s ++ blanks) = false := by
  refine Bool.eq_false_iff.mpr fun hdotted => ?_
  obtain ⟨c, hc⟩ := List.exists_mem_of_ne_nil blanks hne
  have hmem := toLower_mem_of_isDotted hdotted (List.mem_append_right s hc)
  have hlow : c.toNat ≤ 0x20 := of_decide_eq_true (hblank c hc)
  rw [toLower_eq_self (by omega)] at hmem
  have hany : ['.', '%', '2', 'e'].any isEdge = false := by decide
  have hnot := forall_eq_false_of_any hany c hmem
  rw [hblank c hc] at hnot
  exact Bool.noConfusion hnot

/-- A blank at the end of a path is written into its last segment, and makes the path longer. -/
theorem length_pathChars_lt {f : Front} (h : f.IsPath) (hrest : f.rest ≠ []) {blanks : List Char}
    (hne : blanks ≠ []) (hblank : ∀ c ∈ blanks, isEdge c = true) :
    f.url.pathChars.length < (joined (settled (f.extend blanks).segments)).length := by
  cases hcases : f.rest with
  | nil => exact absurd hcases hrest
  | cons c rest =>
    have hc : isSlash .web c = true := h.isSlash_of_rest hcases
    have hfree : ∀ c ∈ blanks, isSlash .web c = false := by
      intro c hc
      have hends := not_endsAuthority_of_isEdge (hblank c hc)
      rw [endsAuthority, Bool.or_assoc, Bool.or_eq_false_iff] at hends
      exact hends.1
    obtain ⟨init, last, hshort, hlong⟩ := splitWhere_append_of_none hfree rest
    have hsegments : (f.extend blanks).segments = init ++ [last ++ blanks] := by
      rw [segments, extend, hcases]
      exact hlong
    have hnot := isDotted_append_blanks hne hblank last
    rw [isDotted, Bool.or_eq_false_iff] at hnot
    have hlast : settled (init ++ [last ++ blanks]) =
        settled init ++ [percentEncode isPathChar (last ++ blanks)] := by
      rw [settled, List.foldl_append, List.foldl_cons, List.foldl_nil, enter, hnot.1, hnot.2]
      exact List.reverse_cons
    have hencoded : percentEncode isPathChar (last ++ blanks) =
        percentEncode isPathChar last ++ percentEncode isPathChar blanks := List.flatMap_append
    have hpos : 0 < (percentEncode isPathChar blanks).length :=
      List.length_pos_iff.mpr (percentEncode_ne_nil hne isPathChar)
    have hle := length_joined_enter (settled init).reverse last
    rw [List.reverse_reverse] at hle
    rw [pathChars_url h, hcases, readSegments, if_pos hc, hshort,
      resolve_append (List.cons_ne_nil _ _), resolve_eq, List.foldl_cons, List.foldl_nil,
      hsegments, hlast, length_joined_concat, hencoded, List.length_append]
    omega

end Front

end EdgeConsole.Web.Url
