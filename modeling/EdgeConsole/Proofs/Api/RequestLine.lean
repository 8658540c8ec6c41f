import EdgeConsole.Proofs.Api.Subject

/-!
# Request lines

The line of a request is its method and what it asks for. For the operations on the resources of a
version it tells the operation, the service and the version, but not always the subject:
`Client.request_line_eq_iff` says that two calls send the same line just when one of their subjects
is the other one or is mistaken for it.
-/

namespace EdgeConsole.Api

open Web (Url)
open Web.Url (joined)

/-! ## Actions -/

/-- What is done with a subject. -/
inductive Action
  | list
  | create
  | get
  | update
  | delete
deriving DecidableEq, Repr

/-- The method of an action. -/
def Action.method : Action → Method
  | .list => .get
  | .create => .post
  | .get => .get
  | .update => .put
  | .delete => .delete

/-- The method tells the action, but for listing. -/
theorem Action.eq_of_method {a b : Action} (h : a.method = b.method)
    (hlist : a = .list ↔ b = .list) : a = b := by
  cases a <;> cases b <;> simp [method] at h hlist ⊢

/-! ## Names that are given -/

theorem Demand.isGiven_of_mem {d : Demand} (h : d.firstMissing? = none) {n : Need}
    (hn : n ∈ d.needs) : n.isGiven = true := by
  rw [firstMissing?, Option.map_eq_none_iff, List.find?_eq_none] at h
  have hgiven := h n hn
  rwa [Bool.not_eq_true', Bool.not_eq_false] at hgiven

theorem Need.ne_of_isGiven_ofText {s : String} {m : Missing}
    (h : (Need.ofText s m).isGiven = true) : s ≠ "" := by
  rintro rfl
  cases h

theorem NameRef.name_ne_of_isGiven {r : NameRef} (h : ∀ n ∈ r.needs, n.isGiven = true) :
    r.name ≠ "" :=
  Need.ne_of_isGiven_ofText (h _ (List.mem_append_right _ List.mem_cons_self))

theorem LinkRef.names_ne_of_isGiven {r : LinkRef} (h : ∀ n ∈ r.needs, n.isGiven = true) :
    r.director ≠ "" ∧ r.backend ≠ "" := by
  have hlast : ∀ n ∈ [Need.ofText r.director .director, .ofText r.backend .backend],
      n.isGiven = true := fun n hn => h n (List.mem_append_right _ hn)
  exact ⟨Need.ne_of_isGiven_ofText (hlast _ List.mem_cons_self),
    Need.ne_of_isGiven_ofText (hlast _ (List.mem_cons_of_mem _ List.mem_cons_self))⟩

/-! ## What an operation does, and with what -/

namespace ResourceInvocation

/-- What the operation does. -/
def action : ResourceInvocation → Action
  | .list _ _ => .list
  | .create _ _ _ => .create
  | .get _ _ => .get
  | .update _ _ _ _ => .update
  | .delete _ _ => .delete
  | .createLink _ => .create
  | .getLink _ => .get
  | .deleteLink _ => .delete

/-- The version in which the operation takes place. -/
def ref : ResourceInvocation → VersionRef
  | .list _ r => r
  | .create _ r _ => r.toVersionRef
  | .get _ r => r.toVersionRef
  | .update _ r _ _ => r.toVersionRef
  | .delete _ r => r.toVersionRef
  | .createLink r => r.toVersionRef
  | .getLink r => r.toVersionRef
  | .deleteLink r => r.toVersionRef

/-- What the operation is about; a resource that is yet to be created is not addressed. -/
def subject : ResourceInvocation → Subject
  | .list k _ => .collection k
  | .create k _ _ => .collection k
  | .get k r => .item k r.name
  | .update k r _ _ => .item k r.name
  | .delete k r => .item k r.name
  | .createLink r => .link r.director r.backend
  | .getLink r => .link r.director r.backend
  | .deleteLink r => .link r.director r.backend

theorem method_demand (i : ResourceInvocation) : i.demand.method = i.action.method := by
  cases i <;> rfl

theorem action_eq_list_iff (i : ResourceInvocation) :
    i.action = .list ↔ i.action.method = .get ∧ i.subject.isCollection = true := by
  cases i <;> simp [action, Action.method, subject, Subject.isCollection]

end ResourceInvocation

/-- The same operation on the same subject; what it is told about the subject may differ. -/
structure IsSame (i j : ResourceInvocation) : Prop where
  action : i.action = j.action
  ref : i.ref = j.ref
  subject : i.subject = j.subject

/-- The same operation on subjects of which one is mistaken for the other. -/
structure IsConfused (i j : ResourceInvocation) : Prop where
  action : i.action = j.action
  ref : i.ref = j.ref
  mistaken : Mistaken i.subject j.subject ∨ Mistaken j.subject i.subject

section Confusion

variable {i j : ResourceInvocation}

theorem IsConfused.not_isSame (h : IsConfused i j) : ¬ IsSame i j := by
  intro hsame
  rcases h.mistaken with hmistaken | hmistaken
  · exact hmistaken.ne hsame.subject
  · exact hmistaken.ne hsame.subject.symm

theorem IsConfused.not_isUndotted (h : IsConfused i j) :
    ¬ (i.subject.IsUndotted ∧ j.subject.IsUndotted) := by
  rintro ⟨hi, hj⟩
  rcases h.mistaken with hmistaken | hmistaken
  · exact hmistaken.not_isUndotted hi
  · exact hmistaken.not_isUndotted hj

/-- The method tells the operation, as a collection is never mistaken for what is in it. -/
theorem isSame_or_isConfused_iff : IsSame i j ∨ IsConfused i j ↔
    i.action.method = j.action.method ∧ i.ref = j.ref ∧
      (i.subject = j.subject ∨ Mistaken i.subject j.subject ∨
        Mistaken j.subject i.subject) := by
  constructor
  · rintro (h | h)
    · exact ⟨congrArg _ h.action, h.ref, .inl h.subject⟩
    · exact ⟨congrArg _ h.action, h.ref, .inr h.mistaken⟩
  · rintro ⟨hmethod, href, hsubject⟩
    have hcollection : i.subject.isCollection = j.subject.isCollection := by
      rcases hsubject with hsame | hmistaken | hmistaken
      · rw [hsame]
      · exact hmistaken.isCollection_eq
      · exact hmistaken.isCollection_eq.symm
    have haction : i.action = j.action := by
      refine Action.eq_of_method hmethod ?_
      rw [i.action_eq_list_iff, j.action_eq_list_iff, hmethod, hcollection]
    exact hsubject.imp (fun hsame => ⟨haction, href, hsame⟩)
      fun hmistaken => ⟨haction, href, hmistaken⟩

end Confusion

/-! ## Targets -/

namespace ResourceInvocation

/-- Where the address of an operation leads. -/
theorem resolve_address (i : ResourceInvocation) :
    Web.Url.resolve [] (i.demand.address.parts.map Part.chars) =
      i.ref.base ++ i.subject.place := by
  cases i with
  | list k r => exact r.resolve_folder k
  | create k r changes => exact r.toVersionRef.resolve_folder k
  | get k r => exact r.resolve_parts k
  | update k r newName? changes => exact r.resolve_parts k
  | delete k r => exact r.resolve_parts k
  | createLink r => exact r.resolve_parts
  | getLink r => exact r.resolve_parts
  | deleteLink r => exact r.resolve_parts

/-- The target of an operation is the place of its subject in its version. -/
theorem target_address (i : ResourceInvocation) :
    i.demand.address.target = String.ofList (joined (i.ref.base ++ i.subject.place)) := by
  have hquery : i.demand.address.query? = none := by cases i <;> rfl
  rw [Address.target, resolve_address, hquery]
  exact congrArg String.ofList (List.append_nil _)

theorem slash_not_mem_place (i : ResourceInvocation) :
    ∀ t ∈ i.ref.base ++ i.subject.place, '/' ∉ t := by
  intro t ht
  rw [← resolve_address] at ht
  exact slash_not_mem_of_mem_resolve ht

/-- An operation that lacks nothing has a subject in which all names are given. -/
theorem isNamed_subject {i : ResourceInvocation} (h : i.demand.firstMissing? = none) :
    i.subject.IsNamed := by
  have hneeds : ∀ n ∈ i.demand.needs, n.isGiven = true := fun n hn => Demand.isGiven_of_mem h hn
  cases i with
  | list k r => exact trivial
  | create k r changes => exact trivial
  | get k r => exact r.name_ne_of_isGiven hneeds
  | update k r newName? changes => exact r.name_ne_of_isGiven hneeds
  | delete k r => exact r.name_ne_of_isGiven hneeds
  | createLink r => exact r.names_ne_of_isGiven hneeds
  | getLink r => exact r.names_ne_of_isGiven hneeds
  | deleteLink r => exact r.names_ne_of_isGiven hneeds

/-- Two targets are one if version and place are. -/
theorem target_address_eq_iff {i j : ResourceInvocation}
    (hi : i.demand.firstMissing? = none) (hj : j.demand.firstMissing? = none) :
    i.demand.address.target = j.demand.address.target ↔
      i.ref = j.ref ∧ (i.subject = j.subject ∨ Mistaken i.subject j.subject ∨
        Mistaken j.subject i.subject) := by
  rw [target_address, target_address, String.ofList_inj,
    ← Subject.place_eq_iff (isNamed_subject hi) (isNamed_subject hj)]
  constructor
  · intro h
    exact VersionRef.base_append_inj
      (Web.Url.joined_inj i.slash_not_mem_place j.slash_not_mem_place h)
  · rintro ⟨href, hplace⟩
    rw [href, hplace]

end ResourceInvocation

/-! ## Lines -/

/-- A line tells its method and its target. -/
theorem Request.line_eq_iff {r r' : Request} :
    r.line = r'.line ↔ r.method = r'.method ∧ r.target = r'.target := by
  constructor
  · intro h
    have hchars := congrArg String.toList h
    simp only [line, String.toList_append] at hchars
    rw [← String.toList_inj]
    cases hr : r.method <;> cases hr' : r'.method <;>
      simp [hr, hr', Method.text] at hchars ⊢ <;> exact hchars
  · rintro ⟨hmethod, htarget⟩
    rw [line, line, hmethod, htarget]

theorem Client.line_sends (c : Client) {i : Invocation} (o : Operation i.Result) :
    (c.sends o).line = i.demand.method.text ++ " " ++ i.demand.address.target := rfl

/-- Two calls on the resources of a version send one line just when they are the same, or are
confused; so the line tells the call but for those that are confused, and these have dotted
names. -/
theorem Client.request_line_eq_iff {key e : String} {agent : Agent} {c : Client} {u : Url}
    (hc : Client.of? key e agent = .ok c) (hu : IsServer e u) {i j : ResourceInvocation}
    {o : Operation i.Result} {p : Operation j.Result} (hi : i.prepared = .ok o)
    (hj : j.prepared = .ok p) {s t : Session} {plan plan' : List Planned}
    (hs : s.server = .scripted plan) (ht : t.server = .scripted plan') :
    ∃ r r' : Request,
      ((c.run i.prepared).run.run s).2.requests = s.requests ++ [r] ∧
      ((c.run j.prepared).run.run t).2.requests = t.requests ++ [r'] ∧
      (r.line = r'.line ↔ IsSame i j ∨ IsConfused i j) ∧
      ((r.line = r'.line → IsSame i j) ↔ ¬ IsConfused i j) ∧
      (IsConfused i j → ¬ (i.subject.IsUndotted ∧ j.subject.IsUndotted)) := by
  have hgiven (i : ResourceInvocation) {o : Operation i.Result} (h : i.prepared = .ok o) :
      (Invocation.resource i).demand.firstMissing? = none :=
    Invocation.exists_prepared_eq_ok_iff.mp ⟨o, h⟩
  obtain ⟨o', -, -, hrequests, -⟩ :=
    c.run_of_isGiven (i := .resource i) hc hu (hgiven i hi) s hs
  obtain ⟨p', -, -, hrequests', -⟩ :=
    c.run_of_isGiven (i := .resource j) hc hu (hgiven j hj) t ht
  have hline : (c.sends o').line = (c.sends p').line ↔ IsSame i j ∨ IsConfused i j := by
    rw [Request.line_eq_iff, isSame_or_isConfused_iff, ← i.method_demand, ← j.method_demand,
      ← ResourceInvocation.target_address_eq_iff (hgiven i hi) (hgiven j hj)]
    exact Iff.rfl
  refine ⟨c.sends o', c.sends p', hrequests, hrequests', hline, ?_, fun h => h.not_isUndotted⟩
  constructor
  · exact fun htells hconfused => hconfused.not_isSame (htells (hline.mpr (.inr hconfused)))
  · exact fun hnot hlines => (hline.mp hlines).resolve_right hnot

/-- The case of a backend and of a link to a backend of its name. -/
theorem Client.request_line_eq_iff_backend :
    ∃ c u, Client.of? "key" "http://[::1]:8080" = .ok c ∧ IsServer "http://[::1]:8080" u ∧
      ∃ r r' : Request,
        ((c.run (getItem .backend ⟨⟨"abc", 1⟩, "x"⟩)).run.run (.start (.scripted []))).2.requests =
          [r] ∧
        ((c.run (getLink ⟨⟨"abc", 1⟩, "d", "x"⟩)).run.run (.start (.scripted []))).2.requests =
          [r'] ∧
        r.line ≠ r'.line := by
  have hc := Client.of?_eq_ok "key" .console rfl isServer_loopback.read rfl
  obtain ⟨r, r', hr, hr', hline, -, hdotted⟩ := Client.request_line_eq_iff hc isServer_loopback
    (i := .get .backend ⟨⟨"abc", 1⟩, "x"⟩) (j := .getLink ⟨⟨"abc", 1⟩, "d", "x"⟩) rfl rfl
    (s := .start (.scripted [])) (t := .start (.scripted [])) rfl rfl
  refine ⟨_, _, hc, isServer_loopback, r, r', hr, hr', fun h => ?_⟩
  rcases hline.mp h with hsame | hconfused
  · cases hsame.subject
  · refine hdotted hconfused ⟨?_, ?_, ?_⟩ <;> exact not_or.mpr ⟨by decide, by decide⟩

/-- Deleting a link of a director with the name `..` sends the line that deletes the backend. -/
theorem Client.request_line_eq_of_dots :
    ∃ c r r', Client.of? "key" "http://[::1]:8080" = .ok c ∧
      ((c.run (deleteLink ⟨⟨"abc", 1⟩, "..", "x"⟩)).run.run (.start (.scripted []))).2.requests =
        [r] ∧
      ((c.run (deleteItem .backend ⟨⟨"abc", 1⟩, "x"⟩)).run.run (.start (.scripted []))).2.requests =
        [r'] ∧
      r.line = "DELETE /service/abc/version/1/backend/x" ∧ r.line = r'.line ∧
      ¬ IsSame (.deleteLink ⟨⟨"abc", 1⟩, "..", "x"⟩) (.delete .backend ⟨⟨"abc", 1⟩, "x"⟩) := by
  have hc := Client.of?_eq_ok "key" .console rfl isServer_loopback.read rfl
  obtain ⟨o, -, -, hr, -⟩ := Client.run_of_isGiven hc isServer_loopback
    (i := .resource (.deleteLink ⟨⟨"abc", 1⟩, "..", "x"⟩)) rfl (.start (.scripted [])) rfl
  obtain ⟨o', -, -, hr', -⟩ := Client.run_of_isGiven hc isServer_loopback
    (i := .resource (.delete .backend ⟨⟨"abc", 1⟩, "x"⟩)) rfl (.start (.scripted [])) rfl
  refine ⟨_, _, _, hc, hr, hr', ?_, ?_, fun h => nomatch h.subject⟩
  · rw [line_sends]
    decide
  · rw [line_sends, line_sends]
    decide

end EdgeConsole.Api
