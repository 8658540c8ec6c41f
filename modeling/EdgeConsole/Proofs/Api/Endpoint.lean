import EdgeConsole.Proofs.Api.Invocation
import EdgeConsole.Proofs.Text.Blank

/-!
# Endpoints as prefixes

A client puts a path behind the text of its endpoint, less the slashes at its end, and has the whole
read as a URL. The endpoint itself was read as a URL too, but that says little about the text: a
query or a fragment takes in whatever follows, blanks at the end are dropped only as long as they
are at the end, and slashes may be hidden behind a dotted segment.

`IsUsable` excludes these, and nothing else: `Client.places_iff` says that every path then stands
below the endpoint, and that no path does otherwise.
-/

namespace EdgeConsole.Api

open Web (Url)
open Web.Url (Front IsPlain IsSegment clean opening endsPath endsAuthority isEdge joined schemeKind
  searched settled)

/-! ## What is asked of an endpoint -/

/-- The address of a path has the scheme, the host and the port of the endpoint, and asks for the
path below the endpoint's own. -/
def Client.Places (c : Client) (u : Url) (path : String) : Prop :=
  ∃ v, Url.ofText (c.url path) = .ok v ∧ v.scheme = u.scheme ∧ v.host = u.host ∧ v.port = u.port ∧
    v.target = String.ofList (Text.dropTail (· == '/') u.pathChars) ++ path

/-- An endpoint behind which paths can be put. -/
structure IsUsable (e : String) : Prop where
  /-- There is neither a query nor a fragment. -/
  free : ∀ c ∈ e.toList, endsPath c = false
  /-- Nothing is dropped at the end. -/
  closed : clean e.toList = opening e.toList
  /-- What is left without the slashes at the end does not resolve to a path with a slash at its
  end. -/
  noGap : ∀ v, Url.ofText (trimSlashes e ++ "/") = .ok v → ¬ ['/', '/'] <:+ v.pathChars

/-- The address begins with a word. -/
def Address.IsRooted (a : Address) : Prop := ∃ w rest, a.parts = .word w :: rest

theorem ResourceInvocation.isRooted_address (i : ResourceInvocation) :
    i.demand.address.IsRooted := by
  cases i <;> exact ⟨.service, _, rfl⟩

/-- All addresses of operations begin with a word. -/
theorem Invocation.isRooted_address (i : Invocation) : i.demand.address.IsRooted := by
  cases i with
  | resource i => exact i.isRooted_address
  | _ => exact ⟨_, _, rfl⟩

/-! ## The text of an address -/

namespace Address

variable {a : Address}

theorem IsRooted.parts_ne_nil (h : a.IsRooted) : a.parts.map Part.chars ≠ [] := by
  obtain ⟨w, rest, hparts⟩ := h
  rw [hparts]
  exact List.cons_ne_nil _ _

/-- A path of the API begins with one slash and a letter. -/
theorem IsRooted.exists_cons (h : a.IsRooted) :
    ∃ c cs, a.text.toList = '/' :: c :: cs ∧ c ≠ '/' ∧ c ≠ '?' := by
  obtain ⟨w, rest, hparts⟩ := h
  have hword : ∃ c cs, w.text.toList = c :: cs ∧ c ≠ '/' ∧ c ≠ '?' := by
    cases w <;> exact ⟨_, _, rfl, by decide, by decide⟩
  obtain ⟨c, cs, hw, hslash, hquery⟩ := hword
  refine ⟨c, cs ++ joined (rest.map Part.chars) ++ searched a.query?, ?_, hslash, hquery⟩
  rw [toList_text, hparts, List.map_cons, Web.Url.joined_cons, Part.chars, hw]
  simp only [List.cons_append, List.append_assoc]

/-- No character of a path is dropped when the text is cleaned. -/
theorem isEdge_of_mem_text {c : Char} (hc : c ∈ a.text.toList) : isEdge c = false := by
  suffices hhigh : 0x20 < c.toNat by rw [isEdge, decide_eq_false_iff_not]; omega
  rw [toList_text] at hc
  rcases List.mem_append.mp hc with hc | hc
  · obtain ⟨s, hs, hmem⟩ := List.mem_flatMap.mp hc
    rcases List.mem_cons.mp hmem with rfl | hmem
    · decide
    · have hchar := (isSegment_of_mem hs).pathChars c hmem
      rw [Web.Url.isPathChar, Bool.and_eq_true, Bool.and_eq_true] at hchar
      exact of_decide_eq_true hchar.1.1
  · cases hq : a.query? with
    | none => rw [hq] at hc; cases hc
    | some q =>
      rw [hq] at hc
      rcases List.mem_cons.mp hc with rfl | hmem
      · decide
      · have hchar := isQueryChar_of_mem hq hmem
        rw [Web.Url.isQueryChar, Bool.and_eq_true, Bool.and_eq_true, Bool.and_eq_true] at hchar
        exact of_decide_eq_true hchar.1.1.1

end Address

/-! ## Slashes at the end -/

theorem dropTail_append_replicate (cs : List Char) (n : Nat) :
    Text.dropTail (· == '/') (cs ++ List.replicate n '/') = Text.dropTail (· == '/') cs := by
  rw [Text.dropTail, Text.dropTail, List.reverse_append, List.dropWhile_append_of_pos]
  intro c hc
  rw [List.eq_of_mem_replicate (List.mem_reverse.mp hc)]
  rfl

theorem length_dropTail_le (cs : List Char) :
    (Text.dropTail (· == '/') cs).length ≤ cs.length := by
  have hreverse : cs.reverse.length = cs.length := List.length_reverse
  rw [Text.dropTail, List.length_reverse, ← hreverse]
  exact (List.dropWhile_suffix _).length_le

theorem dropTail_eq_self_iff (cs : List Char) :
    Text.dropTail (· == '/') cs = cs ↔ ¬ ['/'] <:+ cs := by
  rcases List.eq_nil_or_concat cs with rfl | ⟨front, c, rfl⟩
  · simp
  · by_cases hc : c = '/'
    · subst hc
      have hdrop := dropTail_append_replicate front 1
      have hle := length_dropTail_le front
      refine ⟨fun heq => absurd (congrArg List.length heq) ?_, fun hnot => absurd ?_ hnot⟩
      · rw [List.concat_eq_append]
        rw [List.replicate_one] at hdrop
        rw [hdrop, List.length_append, List.length_singleton]
        omega
      · exact ⟨front, (List.concat_eq_append ..).symm⟩
    · have hkept : (c == '/') = false := beq_eq_false_iff_ne.mpr hc
      have hstays : Text.dropTail (· == '/') (front ++ [c]) = front ++ [c] :=
        Text.dropTail_append_of_not (p := (· == '/')) hkept []
      rw [List.concat_eq_append, hstays]
      refine ⟨fun _ hsuffix => hc ?_, fun _ => rfl⟩
      have hlast := hsuffix.getLast (by simp)
      simpa using hlast.symm

theorem exists_dropTail (cs : List Char) :
    ∃ k, cs = Text.dropTail (· == '/') cs ++ List.replicate k '/' := by
  obtain ⟨tail, hparts, htail⟩ := Text.exists_dropTail_append (· == '/') cs
  have hslashes : tail = List.replicate tail.length '/' :=
    List.eq_replicate_iff.mpr ⟨rfl, fun c hc => beq_iff_eq.mp (htail c hc)⟩
  exact ⟨tail.length, by rw [← hslashes, ← hparts]⟩

theorem exists_trimSlashes (e : String) :
    ∃ k, e.toList = (trimSlashes e).toList ++ List.replicate k '/' := by
  rw [trimSlashes, String.toList_ofList]
  exact exists_dropTail e.toList

/-! ## Reading an address -/

theorem Client.endpoint_of_of? {key e : String} {agent : Agent} {c : Client}
    (h : Client.of? key e agent = .ok c) : c.endpoint = trimSlashes e := by
  rw [Client.of?] at h
  split at h
  · cases h
  · split at h
    · cases h
    · split at h <;> cases h
      rfl

theorem Client.of?_eq_ok {e : String} (key : String) (agent : Agent) {k : Access.ApiKey} {u : Url}
    (hk : Access.ApiKey.ofText? key = some k) (hu : Url.ofText e = .ok u)
    (hbase : u.isBase = true) : Client.of? key e agent = .ok ⟨k, trimSlashes e, agent⟩ := by
  rw [Client.of?, hk, hu]
  exact if_pos hbase

theorem Client.toList_url (c : Client) {a : Address} (ha : a.IsRooted) :
    (c.url a.text).toList = c.endpoint.toList ++ a.text.toList := by
  obtain ⟨d, cs, htext, -⟩ := ha.exists_cons
  rw [Client.url, if_pos (by rw [htext]; rfl), String.toList_append]

theorem Client.clean_url (c : Client) {a : Address} (ha : a.IsRooted) :
    clean (c.url a.text).toList = opening c.endpoint.toList ++ a.text.toList := by
  obtain ⟨d, cs, htext, -⟩ := ha.exists_cons
  rw [c.toList_url ha, Web.Url.clean_append (by rw [htext]; exact List.cons_ne_nil _ _)
    fun d hd => Address.isEdge_of_mem_text hd]

/-- The URL of an address is the URL of what the endpoint says in front with the path behind it. -/
theorem Client.ofText_url {c : Client} {f : Front} (h : f.IsOf (opening c.endpoint.toList))
    {a : Address} (ha : a.IsRooted) :
    Url.ofText (c.url a.text) = .ok (f.extend a.text.toList).url := by
  obtain ⟨d, cs, htext, -⟩ := ha.exists_cons
  apply Front.IsOf.ofText
  rw [c.clean_url ha]
  apply h.append
  rw [htext]
  exact .inr rfl

theorem schemeKind_of_isSendable {u : Url} (h : isSendable u = true) :
    schemeKind u.scheme = .web := by
  rw [isSendable, Bool.or_eq_true, beq_iff_eq, beq_iff_eq] at h
  rcases h with h | h <;> rw [h] <;> decide

/-- An endpoint at whose end nothing is dropped has a front, the slashes at its end apart. -/
theorem exists_base {e : String} {u : Url} (hclosed : clean e.toList = opening e.toList)
    (hu : Url.ofText e = .ok u) (hweb : schemeKind u.scheme = .web) :
    ∃ (f : Front) (k : Nat), f.IsOf (opening (trimSlashes e).toList) ∧
      u = (f.extend (List.replicate k '/')).url := by
  obtain ⟨k, hk⟩ := exists_trimSlashes e
  obtain ⟨f, hf, rfl⟩ := Web.Url.exists_front hu hweb
  rw [hclosed, hk, Web.Url.opening_append] at hf
  · cases k with
    | zero =>
      rw [List.replicate_zero, List.append_nil] at hf
      refine ⟨f, 0, hf, ?_⟩
      rw [Front.extend, List.replicate_zero, List.append_nil]
    | succ k =>
      obtain ⟨g, hg, rfl⟩ := hf.of_append fun c hc => List.eq_of_mem_replicate hc
      exact ⟨g, k + 1, hg, rfl⟩
  · intro c hc
    rw [List.eq_of_mem_replicate hc]
    decide

theorem toList_target {u : Url} (h : u.pathChars ≠ []) :
    u.target.toList = u.pathChars ++ searched u.query := by
  rw [Url.target, String.toList_ofList, if_neg (by rwa [List.isEmpty_iff])]
  cases u.query <;> rfl

section Places

variable {c : Client} {f : Front} {u v : Url} {a : Address}

/-- Behind a front that is nothing but a path, an address leads below what stays of that path. -/
theorem toList_target_extend (hpath : f.IsPath) (ha : a.IsRooted) (hplain : a.IsUndotted) :
    (f.extend a.text.toList).url.target.toList =
      joined (settled f.segments) ++ a.text.toList := by
  have hsearch : ∀ q ∈ a.query?, ∀ d ∈ q, Web.Url.isQueryChar .web d = true := fun q hq d hd =>
    Address.isQueryChar_of_mem hq hd
  have hchars := Front.pathChars_extend hpath ha.parts_ne_nil (fun s hs => hplain.isPlain_of_mem hs)
    hsearch
  have hquery := congrArg Url.query (Front.url_extend hpath ha.parts_ne_nil
    (fun s hs => Address.isSegment_of_mem hs) hsearch)
  rw [← Address.toList_text] at hchars hquery
  rw [toList_target, hchars, hquery, List.append_assoc, ← Address.toList_text]
  rw [hchars]
  obtain ⟨w, rest, hparts⟩ := ha
  rw [hparts]
  exact List.append_ne_nil_of_right_ne_nil _ (List.cons_ne_nil _ _)

/-- An endpoint that is nothing but a path is a prefix if what stays of the path has no slash at its
end. -/
theorem places_iff_of_isPath {k : Nat} (hf : f.IsOf (opening c.endpoint.toList))
    (hpath : f.IsPath) (hu : u = (f.extend (List.replicate k '/')).url) (ha : a.IsRooted)
    (hplain : a.IsUndotted) :
    c.Places u a.text ↔ ¬ ['/'] <:+ joined (settled f.segments) := by
  subst hu
  obtain ⟨n, hn⟩ := Front.exists_pathChars_extend hpath k
  have htarget := toList_target_extend hpath ha hplain
  rw [← dropTail_eq_self_iff, Client.Places, hn, dropTail_append_replicate, Client.ofText_url hf ha]
  constructor
  · rintro ⟨v, hv, -, -, -, hbelow⟩
    obtain rfl := Except.ok.inj hv
    have hlists := htarget.symm.trans (congrArg String.toList hbelow)
    rw [String.toList_append, String.toList_ofList] at hlists
    exact (List.append_cancel_right hlists).symm
  · intro hstays
    refine ⟨_, rfl, rfl, rfl, rfl, String.toList_inj.mp ?_⟩
    rw [htarget, String.toList_append, String.toList_ofList, hstays]

/-- Slashes and a query are not where a path of the API begins. -/
theorem slashes_append_searched_ne {n : Nat} {q? : Option (List Char)} {d : Char} {cs : List Char}
    (hslash : d ≠ '/') (hquestion : d ≠ '?') :
    List.replicate n '/' ++ searched q? ≠ '/' :: d :: cs := by
  intro h
  match n with
  | 0 =>
    cases q? with
    | none => cases h
    | some q => exact absurd (List.cons.inj h).1 (by decide)
  | 1 =>
    have htail : searched q? = d :: cs := (List.cons.inj h).2
    cases q? with
    | none => cases htail
    | some q => exact hquestion (List.cons.inj htail).1.symm
  | n + 2 => exact hslash (List.cons.inj (List.cons.inj h).2).1.symm

/-- An address that adds nothing to the path leads elsewhere. -/
theorem not_places_of_pathChars (hv : Url.ofText (c.url a.text) = .ok v)
    (hpath : v.pathChars = u.pathChars) (ha : a.IsRooted) : ¬ c.Places u a.text := by
  rintro ⟨v', hv', -, -, -, htarget⟩
  obtain rfl := Except.ok.inj (hv.symm.trans hv')
  obtain ⟨d, cs, htext, hslash, hquestion⟩ := ha.exists_cons
  let shown := if v.pathChars.isEmpty then ['/'] else v.pathChars
  have hshown : Text.dropTail (· == '/') shown = Text.dropTail (· == '/') u.pathChars := by
    rw [← hpath]
    by_cases hnone : v.pathChars.isEmpty = true
    · rw [show shown = ['/'] from if_pos hnone, List.isEmpty_iff.mp hnone]
      rfl
    · rw [show shown = v.pathChars from if_neg hnone]
  have hlists : shown ++ searched v.query =
      Text.dropTail (· == '/') u.pathChars ++ '/' :: d :: cs := by
    have heq := congrArg String.toList htarget
    rw [String.toList_append, String.toList_ofList, htext, Url.target, String.toList_ofList] at heq
    rw [← heq]
    cases v.query <;> rfl
  obtain ⟨n, hn⟩ := exists_dropTail shown
  rw [hn, hshown, List.append_assoc] at hlists
  exact slashes_append_searched_ne hslash hquestion (List.append_cancel_left hlists)

/-- Nothing of what is put behind a query or a fragment gets into the path. -/
theorem not_places_of_ended {k : Nat} (hf : f.IsOf (opening c.endpoint.toList))
    (hended : ∃ d ∈ f.rest, endsPath d = true) (hu : u = (f.extend (List.replicate k '/')).url)
    (ha : a.IsRooted) : ¬ c.Places u a.text := by
  refine not_places_of_pathChars (Client.ofText_url hf ha) ?_ ha
  rw [hu, Front.pathChars_extend_of_ended hended, Front.pathChars_extend_of_ended hended]

/-- Behind blanks there is no slash to be cut. -/
theorem toList_trimSlashes_of_blanks {e : String} (h : clean e.toList ≠ opening e.toList) :
    (trimSlashes e).toList = e.toList := by
  obtain ⟨k, hk⟩ := exists_trimSlashes e
  cases k with
  | zero => rw [hk, List.replicate_zero, List.append_nil]
  | succ k =>
    have hkeep : ∀ d ∈ List.replicate (k + 1) '/', isEdge d = false := by
      intro d hd
      rw [List.eq_of_mem_replicate hd]
      decide
    rw [hk, Web.Url.clean_append (by simp) hkeep, Web.Url.opening_append hkeep] at h
    exact absurd rfl h

/-- Blanks at the end of an endpoint are not dropped once a path follows: they are refused with the
host, or they belong to the last segment. -/
theorem not_places_of_blanks {e : String} (hu : Url.ofText e = .ok u)
    (hweb : schemeKind u.scheme = .web) (hc : c.endpoint = trimSlashes e)
    (hblanks : clean e.toList ≠ opening e.toList) (ha : a.IsRooted) (hplain : a.IsUndotted) :
    ¬ c.Places u a.text := by
  obtain ⟨blanks, hblank, hopening⟩ := Web.Url.opening_eq_clean_append e.toList
  have hne : blanks ≠ [] := by
    rintro rfl
    exact hblanks (by rw [hopening, List.append_nil])
  have hsame : c.endpoint.toList = e.toList := by rw [hc, toList_trimSlashes_of_blanks hblanks]
  obtain ⟨d, cs, htext, -, -⟩ := ha.exists_cons
  have hclean : clean (c.url a.text).toList = clean e.toList ++ (blanks ++ a.text.toList) := by
    rw [c.clean_url ha, hsame, hopening, List.append_assoc]
  obtain ⟨f, hf, rfl⟩ := Web.Url.exists_front hu hweb
  by_cases hrest : f.rest = []
  · rintro ⟨v, hv, hscheme, -⟩
    obtain ⟨g, hg, -⟩ := Web.Url.exists_front hv (by rw [hscheme]; exact hweb)
    rw [hclean] at hg
    exact hf.not_append_blanks hrest hne hblank (by rw [htext]; rfl) hg
  · have hv : Url.ofText (c.url a.text) = .ok (f.extend (blanks ++ a.text.toList)).url := by
      apply Front.IsOf.ofText
      rw [hclean]
      exact hf.append (.inl hrest)
    by_cases hended : ∃ d ∈ f.rest, endsPath d = true
    · exact not_places_of_pathChars hv (Front.pathChars_extend_of_ended hended _) ha
    · have hpath : f.IsPath := hf.isPath fun d hd => by
        rw [← Bool.not_eq_true]
        exact fun hends => hended ⟨d, hd, hends⟩
      have hlonger := Front.length_pathChars_lt hpath hrest hne hblank
      have htarget := toList_target_extend (hpath.extend_blanks hrest hblank) ha hplain
      rintro ⟨v, hv', -, -, -, hbelow⟩
      obtain rfl := Except.ok.inj (hv.symm.trans hv')
      have hrests : f.extend (blanks ++ a.text.toList) = (f.extend blanks).extend a.text.toList := by
        rw [Front.extend, Front.extend, Front.extend, List.append_assoc]
      rw [hrests] at hbelow
      have hlists := htarget.symm.trans (congrArg String.toList hbelow)
      rw [String.toList_append, String.toList_ofList] at hlists
      have hle := length_dropTail_le f.url.pathChars
      rw [← List.append_cancel_right hlists] at hle
      omega

end Places

/-! ## Usable endpoints -/

theorem mem_rest_iff {e : String} {f : Front} (hf : f.IsOf (opening (trimSlashes e).toList))
    {d : Char} (hd : endsPath d = true) : d ∈ f.rest ↔ d ∈ e.toList := by
  have hmark : d = '?' ∨ d = '#' := by
    simpa only [endsPath, Bool.or_eq_true, beq_iff_eq] using hd
  obtain ⟨front, hparts, hfree, -⟩ := hf.exists_append
  obtain ⟨k, hk⟩ := exists_trimSlashes e
  constructor
  · intro hmem
    have hopening : d ∈ opening (trimSlashes e).toList := by
      rw [hparts]
      exact List.mem_append_right _ hmem
    rw [hk]
    exact List.mem_append_left _ (Web.Url.mem_of_mem_opening hopening)
  · intro hmem
    rw [hk] at hmem
    rcases List.mem_append.mp hmem with hmem | hmem
    · have hopening := Web.Url.mem_opening hmem (by rcases hmark with rfl | rfl <;> decide)
      rw [hparts] at hopening
      rcases List.mem_append.mp hopening with hfront | hrest
      · rw [hfree d hfront] at hd
        exact Bool.noConfusion hd
      · exact hrest
    · rw [List.eq_of_mem_replicate hmem] at hd
      exact absurd hd (by decide)

theorem suffix_concat_iff (cs : List Char) : ['/', '/'] <:+ cs ++ ['/'] ↔ ['/'] <:+ cs := by
  constructor
  · rintro ⟨front, hfront⟩
    have hcut : (front ++ ['/']) ++ ['/'] = cs ++ ['/'] := by
      rw [← hfront, List.append_assoc]
      rfl
    exact ⟨front, List.append_cancel_right hcut⟩
  · rintro ⟨front, rfl⟩
    exact ⟨front, by rw [List.append_assoc]; rfl⟩

/-- The text of an endpoint with one slash at its end. -/
theorem ofText_trimSlashes {e : String} {f : Front}
    (hf : f.IsOf (opening (trimSlashes e).toList)) :
    Url.ofText (trimSlashes e ++ "/") = .ok (f.extend ['/']).url := by
  apply Front.IsOf.ofText
  have hclean := Web.Url.clean_append (List.cons_ne_nil '/' [])
    (Web.Url.forall_eq_false_of_any (by decide)) (trimSlashes e).toList
  have hslash : "/".toList = ['/'] := rfl
  rw [String.toList_append, hslash, hclean]
  exact hf.append (.inr rfl)

theorem isPath_of_free {e : String} {f : Front} (hf : f.IsOf (opening (trimSlashes e).toList))
    (hfree : ∀ d ∈ e.toList, endsPath d = false) : f.IsPath :=
  hf.isPath fun d hd => by
    refine Bool.eq_false_iff.mpr fun hends => ?_
    rw [hfree d ((mem_rest_iff hf hends).mp hd)] at hends
    exact Bool.noConfusion hends

/-- The gap that an endpoint may leave, by what stays of its path. -/
theorem noGap_iff {e : String} {f : Front} (hf : f.IsOf (opening (trimSlashes e).toList))
    (hpath : f.IsPath) :
    (∀ v, Url.ofText (trimSlashes e ++ "/") = .ok v → ¬ ['/', '/'] <:+ v.pathChars) ↔
      ¬ ['/'] <:+ joined (settled f.segments) := by
  have hone : (f.extend ['/']).url.pathChars = joined (settled f.segments) ++ ['/'] :=
    Front.pathChars_extend_joined hpath (List.cons_ne_nil [] [])
      (by simp [Web.Url.isPlain_nil])
  rw [← suffix_concat_iff, ← hone]
  constructor
  · intro hgap
    exact hgap _ (ofText_trimSlashes hf)
  · intro hgap v hv
    obtain rfl := Except.ok.inj ((ofText_trimSlashes hf).symm.trans hv)
    exact hgap

theorem places_address_iff {c : Client} {e : String} {u : Url} (hc : c.endpoint = trimSlashes e)
    (hu : Url.ofText e = .ok u) (hweb : schemeKind u.scheme = .web) {a : Address}
    (ha : a.IsRooted) (hplain : a.IsUndotted) : c.Places u a.text ↔ IsUsable e := by
  by_cases hclosed : clean e.toList = opening e.toList
  · obtain ⟨f, k, hf, hbase⟩ := exists_base hclosed hu hweb
    have hf' : f.IsOf (opening c.endpoint.toList) := by rw [hc]; exact hf
    by_cases hfree : ∀ d ∈ e.toList, endsPath d = false
    · have hpath := isPath_of_free hf hfree
      rw [places_iff_of_isPath hf' hpath hbase ha hplain, ← noGap_iff hf hpath]
      exact ⟨fun hgap => ⟨hfree, hclosed, hgap⟩, fun h => h.noGap⟩
    · have hended : ∃ d ∈ f.rest, endsPath d = true := by
        obtain ⟨d, hd⟩ := Classical.not_forall.mp hfree
        obtain ⟨hmem, hends⟩ := Classical.not_imp.mp hd
        rw [Bool.not_eq_false] at hends
        exact ⟨d, (mem_rest_iff hf hends).mpr hmem, hends⟩
      refine iff_of_false (not_places_of_ended hf' hended hbase ha) ?_
      exact fun h => hfree h.free
  · refine iff_of_false (not_places_of_blanks hu hweb hc hclosed ha hplain) ?_
    exact fun h => hclosed h.closed

/-- The paths of the API stand below the endpoint that a client accepts just when the endpoint is
usable, whichever path it is: that of an address, or that of an operation. -/
theorem Client.places_iff {key e : String} {agent : Agent} {c : Client} {u : Url}
    (hc : Client.of? key e agent = .ok c) (hu : Url.ofText e = .ok u)
    (hsend : isSendable u = true) :
    (∀ a : Address, a.IsRooted → a.IsUndotted → (c.Places u a.text ↔ IsUsable e)) ∧
      ∀ (i : Invocation) (o : Operation i.Result), i.prepared = .ok o →
        i.demand.address.IsUndotted → (c.Places u o.path ↔ IsUsable e) := by
  have hall (a : Address) (ha : a.IsRooted) (hplain : a.IsUndotted) :=
    places_address_iff (Client.endpoint_of_of? hc) hu (schemeKind_of_isSendable hsend) ha hplain
  refine ⟨hall, fun i o ho hplain => ?_⟩
  rw [(Invocation.meets_of_prepared ho).path]
  exact hall i.demand.address i.isRooted_address hplain

/-- The case of a loopback address and the path of a service. -/
theorem Client.places_iff_loopback :
    ∃ c u, Client.of? "key" "http://[::1]:8080/" = .ok c ∧
      Url.ofText "http://[::1]:8080/" = .ok u ∧ isSendable u = true ∧
      (c.Places u (servicePath "abc") ↔ IsUsable "http://[::1]:8080/") := by
  have hu : Url.ofText "http://[::1]:8080/" =
      .ok ⟨"http".toList, some (.address6 [0, 0, 0, 0, 0, 0, 0, 1]), some 8080, .segments [[]],
        none⟩ := rfl
  have hc := Client.of?_eq_ok "key" .console rfl hu rfl
  have hall := (Client.places_iff hc hu rfl).1 { parts := serviceParts "abc" } ⟨_, _, rfl⟩
    (by decide)
  rw [Address.text_of_parts, partsText_serviceParts] at hall
  exact ⟨_, _, hc, hu, rfl, hall⟩

/-- A client accepts an endpoint with a query, and then every path ends up in that query. -/
theorem Client.not_places_query :
    ∃ c u v, Client.of? "key" "http://[::1]?x=1" = .ok c ∧
      Url.ofText "http://[::1]?x=1" = .ok u ∧ isSendable u = true ∧
      Url.ofText (c.url (servicePath "abc")) = .ok v ∧ v.target = "/?x=1/service/abc" ∧
      ¬ c.Places u (servicePath "abc") := by
  have hu : Url.ofText "http://[::1]?x=1" =
      .ok ⟨"http".toList, some (.address6 [0, 0, 0, 0, 0, 0, 0, 1]), none, .segments [[]],
        some "x=1".toList⟩ := rfl
  have hv : Url.ofText "http://[::1]?x=1/service/abc" =
      .ok ⟨"http".toList, some (.address6 [0, 0, 0, 0, 0, 0, 0, 1]), none, .segments [[]],
        some "x=1/service/abc".toList⟩ := rfl
  have hc := Client.of?_eq_ok "key" .console rfl hu rfl
  have hjoined : Client.url ⟨⟨"key", rfl⟩, trimSlashes "http://[::1]?x=1", .console⟩
      (servicePath "abc") = "http://[::1]?x=1/service/abc" := by decide
  have hnot : ¬ IsUsable "http://[::1]?x=1" := fun h => absurd (h.free '?' (by decide)) (by decide)
  have hall := places_address_iff (Client.endpoint_of_of? hc) hu (by decide)
    (a := { parts := serviceParts "abc" }) ⟨_, _, rfl⟩ (by decide)
  rw [Address.text_of_parts, partsText_serviceParts] at hall
  exact ⟨_, _, _, hc, hu, rfl, hjoined ▸ hv, by decide, fun h => hnot (hall.mp h)⟩

end EdgeConsole.Api
