import EdgeConsole.Proofs.Api.Subject

/-!
# Targets behind an endpoint

A client asks for whatever its endpoint and a path come to when they are read together. Where the
endpoint ends in a path, the path of the API is resolved with it, and where it ends in a query, the
query takes the path in. Either way the end of the path is still the end of the target
(`exists_target_extend`), so that two collections of one version are never asked for with the same
target (`Client.target_ne_of_folder`). Only a fragment makes them the same, as it takes the paths
in and is not sent (`Client.request?_eq_of_fragment`).
-/

namespace EdgeConsole.Api

open Resource (VersionedKind)
open Web (Url)
open Web.Url (Front IsPlain clean opening endsPath isQueryChar joined readQuery searched settled
  splitScheme?)

/-! ## The front of an address -/

theorem Client.exists_url_of_of? {key e : String} {agent : Agent} {c : Client}
    (h : Client.of? key e agent = .ok c) : ∃ u, Url.ofText e = .ok u := by
  rw [Client.of?] at h
  split at h
  · cases h
  · split at h
    · cases h
    · next u hu => exact ⟨u, hu⟩

theorem Client.exists_url_of_request {c : Client} {method : Method} {path : String}
    {form? : Option (List Web.Form.Pair)} {r : Request} (h : c.request? method path form? = some r) :
    ∃ v, Url.ofText (c.url path) = .ok v ∧ isSendable v = true ∧
      r = ⟨method, v.target, form?, c.key, c.agent⟩ := by
  unfold request? at h
  split at h
  · next v hv =>
    split at h
    · next hsend => exact ⟨v, hv, hsend, (Option.some.inj h).symm⟩
    · cases h
  · cases h

/-- The scheme of an endpoint is not in what is cut off it. -/
theorem exists_splitScheme?_opening {e : String} {u : Url} (hu : Url.ofText e = .ok u) :
    ∃ rest, splitScheme? (opening (trimSlashes e).toList) = some (u.scheme, rest) := by
  obtain ⟨after, hsplit⟩ := Web.Url.ofText_scheme hu
  by_cases hclosed : clean e.toList = opening e.toList
  · obtain ⟨k, hk⟩ := exists_trimSlashes e
    have hslashes : ∀ d ∈ List.replicate k '/', Web.Url.isEdge d = false := by
      intro d hd
      rw [List.eq_of_mem_replicate hd]
      decide
    rw [hclosed, hk, Web.Url.opening_append hslashes] at hsplit
    cases k with
    | zero =>
      rw [List.replicate_zero, List.append_nil] at hsplit
      exact ⟨after, hsplit⟩
    | succ k => exact Web.Url.exists_splitScheme?_of_append hsplit
  · obtain ⟨blanks, -, hopening⟩ := Web.Url.opening_eq_clean_append e.toList
    rw [toList_trimSlashes_of_blanks hclosed, hopening]
    exact ⟨_, Web.Url.splitScheme?_append hsplit blanks⟩

section Front

variable {key e : String} {agent : Agent} {c : Client} {u v : Url} {a : Address}

/-- The address of a path has the scheme of the endpoint. -/
theorem scheme_eq_of_url (hc : Client.of? key e agent = .ok c) (hu : Url.ofText e = .ok u)
    (ha : a.IsRooted) (hv : Url.ofText (c.url a.text) = .ok v) : u.scheme = v.scheme := by
  obtain ⟨rest, hrest⟩ := exists_splitScheme?_opening hu
  obtain ⟨after, hafter⟩ := Web.Url.ofText_scheme hv
  rw [c.clean_url ha, Client.endpoint_of_of? hc, Web.Url.splitScheme?_append hrest] at hafter
  exact (Prod.mk.inj (Option.some.inj hafter)).1

/-- Blanks at the end of an endpoint belong to the last segment, or else to the host, which has
none. -/
theorem exists_front_of_blanks {f g : Front} {cs blanks : List Char} (hf : f.IsOf cs)
    (hne : blanks ≠ []) (hblank : ∀ d ∈ blanks, Web.Url.isEdge d = true) (ha : a.IsRooted)
    (hg : g.IsOf (cs ++ (blanks ++ a.text.toList))) : ∃ f : Front, f.IsOf (cs ++ blanks) := by
  obtain ⟨d, rest, htext, -⟩ := ha.exists_cons
  by_cases hrest : f.rest = []
  · exact absurd hg (hf.not_append_blanks hrest hne hblank (by rw [htext]; rfl))
  · exact ⟨f.extend blanks, hf.append (.inl hrest)⟩

/-- If an address can be asked, then the endpoint says where. -/
theorem Client.exists_front_of_request (hc : Client.of? key e agent = .ok c) (ha : a.IsRooted)
    {method : Method} {form? : Option (List Web.Form.Pair)} {r : Request}
    (hr : c.request? method a.text form? = some r) :
    ∃ f : Front, f.IsOf (opening c.endpoint.toList) := by
  obtain ⟨u, hu⟩ := exists_url_of_of? hc
  obtain ⟨v, hv, hsend, -⟩ := exists_url_of_request hr
  have hendpoint := endpoint_of_of? hc
  have hweb : Web.Url.schemeKind u.scheme = .web := by
    rw [scheme_eq_of_url hc hu ha hv]
    exact schemeKind_of_isSendable hsend
  by_cases hclosed : clean e.toList = opening e.toList
  · obtain ⟨f, -, hf, -⟩ := exists_base hclosed hu hweb
    exact ⟨f, by rwa [hendpoint]⟩
  · obtain ⟨blanks, hblank, hopening⟩ := Web.Url.opening_eq_clean_append e.toList
    have hne : blanks ≠ [] := by
      rintro rfl
      exact hclosed (by rw [hopening, List.append_nil])
    have hsame : opening c.endpoint.toList = clean e.toList ++ blanks := by
      rw [hendpoint, toList_trimSlashes_of_blanks hclosed, hopening]
    obtain ⟨f, hf, -⟩ := Web.Url.exists_front hu hweb
    obtain ⟨g, hg, -⟩ := Web.Url.exists_front hv (schemeKind_of_isSendable hsend)
    rw [c.clean_url ha, hsame, List.append_assoc] at hg
    rw [hsame]
    exact exists_front_of_blanks hf hne hblank ha hg

end Front

/-! ## The end of a target -/

/-- What ends a path, if it is no fragment, is a query. -/
theorem exists_query {cs : List Char} (hhash : '#' ∉ cs) (hends : ∃ d ∈ cs, endsPath d = true) :
    ∃ front q, cs = front ++ '?' :: q ∧ ∀ d ∈ front, endsPath d = false := by
  induction cs with
  | nil =>
    obtain ⟨d, hd, -⟩ := hends
    cases hd
  | cons c cs ih =>
    rw [List.mem_cons, not_or] at hhash
    cases hc : endsPath c with
    | true =>
      rw [endsPath, Bool.or_eq_true, beq_iff_eq, beq_iff_eq] at hc
      obtain rfl : c = '?' := hc.resolve_right (Ne.symm hhash.1)
      exact ⟨[], cs, rfl, List.forall_mem_nil _⟩
    | false =>
      obtain ⟨d, hd, hend⟩ := hends
      rcases List.mem_cons.mp hd with rfl | hd
      · rw [hc] at hend
        cases hend
      · obtain ⟨front, q, rfl, hfront⟩ := ih hhash.2 ⟨d, hd, hend⟩
        exact ⟨c :: front, q, rfl, List.forall_mem_cons.mpr ⟨hc, hfront⟩⟩

theorem isQueryChar_of_mem_joined {parts : List Part} {d : Char}
    (hd : d ∈ joined (parts.map Part.chars)) : isQueryChar .web d = true := by
  obtain ⟨s, hs, hmem⟩ := List.mem_flatMap.mp hd
  obtain ⟨p, -, rfl⟩ := List.mem_map.mp hs
  rcases List.mem_cons.mp hmem with rfl | hmem
  · decide
  · exact Web.Url.isQueryChar_of_isEscapeChar (Part.isEscapeChar_of_mem_chars hmem)

/-- Behind a query, all that is not in the way of one is added to it. -/
theorem query_extend {f : Front} {front q : List Char} (hrest : f.rest = front ++ '?' :: q)
    (hfront : ∀ d ∈ front, endsPath d = false) (hhash : '#' ∉ q) {more : List Char}
    (hmore : ∀ d ∈ more, isQueryChar .web d = true) :
    (f.extend more).url.query = some (Web.percentEncode (isQueryChar .web) q ++ more) := by
  have hstay : ∀ d ∈ front, (!endsPath d) = true := fun d hd => by rw [hfront d hd]; rfl
  have hkept : ∀ d ∈ q ++ more, (d != '#') = true := by
    intro d hd
    refine bne_iff_ne.mpr ?_
    rintro rfl
    rcases List.mem_append.mp hd with hd | hd
    · exact hhash hd
    · exact absurd (hmore _ hd) (by decide)
  have hdrop : (f.rest ++ more).dropWhile (!endsPath ·) = '?' :: (q ++ more) := by
    rw [hrest, List.append_assoc, List.dropWhile_append_of_pos hstay, List.cons_append,
      List.dropWhile_cons_of_neg (by decide)]
  change readQuery .web ((f.rest ++ more).dropWhile (!endsPath ·)) = _
  rw [hdrop, readQuery, List.takeWhile_eq_self_iff.mpr hkept, Web.percentEncode,
    List.flatMap_append, ← Web.percentEncode, ← Web.percentEncode,
    Web.Url.percentEncode_eq_self hmore]

section Tail

variable {f : Front} (parts : List Part) {tail : List Part}

/-- Behind a path, what the dotted segments leave of it stands in front of plain segments. -/
theorem target_extend_of_isPath (hpath : f.IsPath) (hne : tail ≠ [])
    (hplain : ∀ p ∈ tail, p.isDotted = false) :
    (f.extend (joined ((parts ++ tail).map Part.chars))).url.target.toList =
      joined (settled (f.segments ++ parts.map Part.chars)) ++ joined (tail.map Part.chars) := by
  have htail : tail.map Part.chars ≠ [] := by simpa using hne
  have hsegments : ∀ s ∈ tail.map Part.chars, IsPlain s := by
    intro s hs
    obtain ⟨p, hp, rfl⟩ := List.mem_map.mp hs
    exact Part.isPlain_chars (hplain p hp)
  have hall : ∀ s ∈ (parts ++ tail).map Part.chars, Web.Url.IsSegment s := by
    intro s hs
    obtain ⟨p, -, rfl⟩ := List.mem_map.mp hs
    exact p.isSegment_chars
  have hnone : ∀ q ∈ (none : Option (List Char)), ∀ d ∈ q, isQueryChar .web d = true := by simp
  have hurl := Front.url_extend hpath (by simp [hne]) hall hnone
  rw [searched, List.append_nil, List.map_append, ← List.append_assoc,
    Web.Url.resolve_append_of_isPlain htail hsegments, ← List.map_append] at hurl
  have hchars : (f.extend (joined ((parts ++ tail).map Part.chars))).url.pathChars =
      joined (settled (f.segments ++ parts.map Part.chars)) ++ joined (tail.map Part.chars) := by
    rw [hurl, ← Web.Url.joined_append]
    rfl
  have hshown : joined (tail.map Part.chars) ≠ [] := by
    obtain ⟨s, rest, hcons⟩ := List.exists_cons_of_ne_nil htail
    rw [hcons]
    exact List.cons_ne_nil _ _
  rw [toList_target (by rw [hchars]; exact List.append_ne_nil_of_right_ne_nil _ hshown), hchars,
    hurl, searched, List.append_nil]

/-- Behind a query, the path belongs to the query. -/
theorem target_extend_of_query {front q : List Char} (hrest : f.rest = front ++ '?' :: q)
    (hfront : ∀ d ∈ front, endsPath d = false) (hhash : '#' ∉ q) :
    (f.extend (joined ((parts ++ tail).map Part.chars))).url.target.toList =
      ((if f.url.pathChars.isEmpty then ['/'] else f.url.pathChars) ++
        '?' :: (Web.percentEncode (isQueryChar .web) q ++ joined (parts.map Part.chars))) ++
          joined (tail.map Part.chars) := by
  have hended : ∃ d ∈ f.rest, endsPath d = true := ⟨'?', by simp [hrest], by decide⟩
  have hpath := Front.pathChars_extend_of_ended hended (joined ((parts ++ tail).map Part.chars))
  have hquery := query_extend hrest hfront hhash
    fun d (hd : d ∈ joined ((parts ++ tail).map Part.chars)) => isQueryChar_of_mem_joined hd
  rw [Url.target, String.toList_ofList, hpath, hquery, List.map_append, Web.Url.joined_append]
  simp only [List.append_assoc, List.cons_append]

/-- Whatever an endpoint without a fragment ends in, the end of a path behind it is the end of the
target. -/
theorem exists_target_extend {cs : List Char} (hf : f.IsOf cs) (hhash : '#' ∉ f.rest) :
    ∃ front, ∀ tail : List Part, tail ≠ [] → (∀ p ∈ tail, p.isDotted = false) →
      (f.extend (joined ((parts ++ tail).map Part.chars))).url.target.toList =
        front ++ joined (tail.map Part.chars) := by
  by_cases hended : ∃ d ∈ f.rest, endsPath d = true
  · obtain ⟨front, q, hrest, hfront⟩ := exists_query hhash hended
    have hq : '#' ∉ q := fun hmem => hhash (by rw [hrest]; simp [hmem])
    exact ⟨_, fun tail _ _ => target_extend_of_query parts hrest hfront hq⟩
  · have hfree : ∀ d ∈ f.rest, endsPath d = false := by simpa using hended
    exact ⟨_, fun tail => target_extend_of_isPath parts (hf.isPath hfree)⟩

end Tail

/-- The target of a collection is that of its version with the words of the kind behind it. -/
theorem exists_target_folder {f : Front} {c : Client} (hf : f.IsOf (opening c.endpoint.toList))
    (hhash : '#' ∉ f.rest) (r : VersionRef) :
    ∃ front, ∀ (k : VersionedKind) (method : Method) (form? : Option (List Web.Form.Pair))
      (q : Request), c.request? method (Address.text { parts := r.folder k }) form? = some q →
        q.target.toList = front ++ joined (kindChars k) := by
  obtain ⟨front, hfront⟩ := exists_target_extend r.parts hf hhash
  refine ⟨front, ?_⟩
  intro k method form? q hq
  have hroot : Address.IsRooted { parts := r.folder k } := ⟨.service, _, rfl⟩
  have htext : (Address.text { parts := r.folder k }).toList =
      joined ((r.parts ++ kindParts k).map Part.chars) :=
    (Address.toList_text _).trans (List.append_nil _)
  obtain ⟨v, hv, -, rfl⟩ := Client.exists_url_of_request hq
  obtain rfl := Except.ok.inj ((Client.ofText_url hf hroot).symm.trans hv)
  rw [htext]
  apply hfront (kindParts k)
  · exact fun hnil => kindChars_ne_nil k (congrArg (List.map Part.chars) hnil)
  · intro p hp
    obtain ⟨w, -, rfl⟩ := List.mem_map.mp hp
    rfl

/-- Two collections of one version are asked for with different targets. -/
theorem Client.target_ne_of_folder {key e : String} {agent : Agent} {c : Client}
    (hc : Client.of? key e agent = .ok c) (hhash : '#' ∉ e.toList) {r : VersionRef}
    {k k' : VersionedKind} (hne : k ≠ k') {method method' : Method}
    {form? form'? : Option (List Web.Form.Pair)} {q q' : Request}
    (hq : c.request? method (r.path k) form? = some q)
    (hq' : c.request? method' (r.path k') form'? = some q') : q.target ≠ q'.target := by
  have hpath (k : VersionedKind) : r.path k = Address.text { parts := r.folder k } := by
    rw [Address.text_of_parts, partsText_folder]
  rw [hpath] at hq hq'
  obtain ⟨f, hf⟩ := exists_front_of_request hc ⟨.service, _, rfl⟩ hq
  have hfragment : '#' ∉ f.rest := by
    rw [endpoint_of_of? hc] at hf
    exact mt (mem_rest_iff hf (by decide)).mp hhash
  obtain ⟨front, htarget⟩ := exists_target_folder hf hfragment r
  have hslash (k : VersionedKind) : ∀ s ∈ kindChars k, '/' ∉ s := fun s hs =>
    (isPlain_of_mem_kindChars hs).toIsSegment.not_mem_slash
  intro heq
  have hlists := congrArg String.toList heq
  rw [htarget k _ _ q hq, htarget k' _ _ q' hq'] at hlists
  exact hne (kindChars_inj
    (Web.Url.joined_inj (hslash k) (hslash k') (List.append_cancel_left hlists)))

/-- Behind an endpoint with a fragment all addresses are asked for with one request. -/
theorem Client.request?_eq_of_fragment {key e : String} {agent : Agent} {c : Client}
    (hc : Client.of? key e agent = .ok c) (hhash : '#' ∈ e.toList) {a a' : Address}
    (ha : a.IsRooted) (ha' : a'.IsRooted) {method : Method}
    {form? : Option (List Web.Form.Pair)} {r : Request}
    (hr : c.request? method a.text form? = some r) : c.request? method a'.text form? = some r := by
  obtain ⟨f, hf⟩ := exists_front_of_request hc ha hr
  have hfragment : '#' ∈ f.rest := by
    rw [endpoint_of_of? hc] at hf
    exact (mem_rest_iff hf (by decide)).mpr hhash
  have hurl : Url.ofText (c.url a'.text) = Url.ofText (c.url a.text) := by
    rw [Client.ofText_url hf ha, Client.ofText_url hf ha', Front.url_extend_of_fragment hfragment,
      Front.url_extend_of_fragment hfragment]
  unfold request? at hr ⊢
  rw [hurl]
  exact hr

end EdgeConsole.Api
