import EdgeConsole.Proofs.Api.Content
import EdgeConsole.Proofs.Api.Validation
import EdgeConsole.Proofs.Outcome
import EdgeConsole.Proofs.Web.Form

/-!
# The forms that are sent

Every operation that sends a form sends the pairs of its content (`Invocation.form_of_prepared`),
and a body is read as the pairs that it was made of. So the body of a request determines what was
set (`Client.run_sends_form`).
-/

namespace EdgeConsole.Api

open Record (FieldSpec Row)
open Resource (VersionedKind Scalar Setting Patch PatchValue patchPair)
open Web (Form.Pair Form.decode? Form.encode)

/-! ## The content of an operation -/

/-- The content of an operation on the resources of a version, if it sends a form. -/
def ResourceInvocation.content? : ResourceInvocation → Option Content
  | .list _ _ => none
  | .create k r changes => some (.newItem k r.name changes)
  | .get _ _ => none
  | .update k _ newName? changes => some (.item k newName? changes)
  | .delete _ _ => none
  | .createLink _ => none
  | .getLink _ => none
  | .deleteLink _ => none

/-- The content of an operation, if it sends a form. -/
def Invocation.content? : Invocation → Option Content
  | .resource i => i.content?
  | .createVersion _ comment? => some (.version comment?)
  | .updateVersion _ comment? => some (.version comment?)
  | .createService name comment? => some (.newService name comment?)
  | .updateService _ name? comment? => some (.service name? comment?)
  | .createToken t => some (.newToken t)
  | .createUser login name? role? => some (.newUser login name? role?)
  | .updateUser _ name? role? => some (.user name? role?)
  | .listVersions _ => none
  | .latestVersion _ => none
  | .getVersion _ => none
  | .actOnVersion _ _ => none
  | .validateVersion _ => none
  | .listServices => none
  | .getService _ => none
  | .getServiceDetails _ => none
  | .deleteService _ => none
  | .searchService _ => none
  | .listTokens => none
  | .listCustomerTokens _ => none
  | .getOwnToken => none
  | .deleteToken _ => none
  | .deleteOwnToken => none
  | .listCustomerUsers _ => none
  | .getCurrentUser => none
  | .getUser _ => none
  | .deleteUser _ => none
  | .resetPassword _ => none

/-! ## The operations send their content -/

theorem pairs_texts_toList (key : String) (value? : Option String) :
    (FormField.texts key value?.toList).pairs = optionalPair key value? := by
  cases value? <;> rfl

/-- The pairs of a patch are those of its fields. -/
theorem pairs_patchFields {fs : List (FieldSpec Scalar)} (changes : Patch fs) :
    (patchFields changes).flatMap FormField.pairs = changes.pairs := by
  induction changes with
  | nil => rfl
  | @cons f fs v changes ih =>
    have hfield : (patchField f v).flatMap FormField.pairs = patchPair f v := by
      obtain ⟨name, kind, writable⟩ := f
      cases kind with
      | plainText => rfl
      | weak w => rfl
      | texts => rfl
      | optional s =>
        cases writable with
        | false => rfl
        | true => cases v <;> rfl
    show (patchField f v ++ patchFields changes).flatMap FormField.pairs = _
    rw [List.flatMap_append, hfield, ih]
    rfl

theorem eq_of_checked {α : Type} {check : Except Missing Unit} {o o' : Operation α}
    (h : checked check o = .ok o') : o = o' := by
  cases check with
  | error m => cases h
  | ok _ => exact Except.ok.inj h

/-- An operation on the resources of a version sends its content. -/
theorem ResourceInvocation.form_of_prepared {i : ResourceInvocation} {o : Operation i.Result}
    (h : i.prepared = .ok o) : o.form? = i.content?.map Content.pairs := by
  cases i with
  | create k r changes =>
    obtain rfl := eq_of_checked h
    show some (creationForm r.name changes) = some (Content.newItem k r.name changes).pairs
    rw [creationForm, ← pairs_patchFields]
    rfl
  | update k r newName? changes =>
    obtain rfl := eq_of_checked h
    show some (changeForm newName? changes) = some (Content.item k newName? changes).pairs
    rw [changeForm, ← pairs_patchFields]
    cases newName? <;> rfl
  | list k r => obtain rfl := eq_of_checked h; rfl
  | get k r => obtain rfl := eq_of_checked h; rfl
  | delete k r => obtain rfl := eq_of_checked h; rfl
  | createLink r => obtain rfl := eq_of_checked h; rfl
  | getLink r => obtain rfl := eq_of_checked h; rfl
  | deleteLink r => obtain rfl := eq_of_checked h; rfl

/-- Every operation sends its content, and one without content sends no form. -/
theorem Invocation.form_of_prepared {i : Invocation} {o : Operation i.Result}
    (h : i.prepared = .ok o) : o.form? = i.content?.map Content.pairs := by
  cases i with
  | resource i => exact ResourceInvocation.form_of_prepared h
  | createVersion service comment? =>
    obtain rfl := eq_of_checked h
    cases comment? <;> rfl
  | updateVersion r comment? =>
    obtain rfl := eq_of_checked h
    cases comment? <;> rfl
  | createService name comment? =>
    obtain rfl := eq_of_checked h
    cases comment? <;> rfl
  | updateService id name? comment? =>
    obtain rfl := eq_of_checked h
    cases name? <;> cases comment? <;> rfl
  | createUser login name? role? =>
    obtain rfl := eq_of_checked h
    cases name? <;> cases role? <;> rfl
  | updateUser id name? role? =>
    obtain rfl := eq_of_checked h
    cases name? <;> cases role? <;> rfl
  | createToken t =>
    obtain rfl := Except.ok.inj h
    have hexpires : (FormField.mk "expires_at" .instant t.expiresAt?.toList).pairs =
        optionalPair "expires_at" (t.expiresAt?.map Calendar.Timestamp.writeSeconds) := by
      cases t.expiresAt? <;> rfl
    show some t.form = some (Content.newToken t).pairs
    simp only [TokenRequest.form, Content.pairs, Content.fields, List.flatMap_cons,
      List.flatMap_nil, pairs_texts_toList, hexpires, List.append_assoc, List.append_nil]
    rfl
  | latestVersion service =>
    obtain ⟨o', ho', rfl⟩ := Outcome.map_eq_ok_iff.mp h
    obtain rfl := eq_of_checked ho'
    rfl
  | listVersions service => obtain rfl := eq_of_checked h; rfl
  | getVersion r => obtain rfl := eq_of_checked h; rfl
  | actOnVersion r action => obtain rfl := eq_of_checked h; rfl
  | validateVersion r => obtain rfl := eq_of_checked h; rfl
  | listServices => obtain rfl := Except.ok.inj h; rfl
  | getService id => obtain rfl := eq_of_checked h; rfl
  | getServiceDetails id => obtain rfl := eq_of_checked h; rfl
  | deleteService id => obtain rfl := eq_of_checked h; rfl
  | searchService name => obtain rfl := eq_of_checked h; rfl
  | listTokens => obtain rfl := Except.ok.inj h; rfl
  | listCustomerTokens customer => obtain rfl := eq_of_checked h; rfl
  | getOwnToken => obtain rfl := Except.ok.inj h; rfl
  | deleteToken id => obtain rfl := eq_of_checked h; rfl
  | deleteOwnToken => obtain rfl := Except.ok.inj h; rfl
  | listCustomerUsers customer => obtain rfl := eq_of_checked h; rfl
  | getCurrentUser => obtain rfl := Except.ok.inj h; rfl
  | getUser id => obtain rfl := eq_of_checked h; rfl
  | deleteUser id => obtain rfl := eq_of_checked h; rfl
  | resetPassword login => obtain rfl := eq_of_checked h; rfl

/-- An operation has content just when it is catalogued with a form. -/
theorem Invocation.isSome_content? (i : Invocation) : i.content?.isSome = i.demand.sendsForm := by
  cases i with
  | resource i => cases i <;> rfl
  | _ => rfl

/-! ## Runs -/

/-- The request carries the content: its body is read as pairs that tell it and are orderly. -/
structure Content.IsCarriedBy (content : Content) (r : Request) : Prop where
  contentType : r.contentType? = some "application/x-www-form-urlencoded"
  body : ∃ pairs, Form.decode? r.body = some pairs ∧ r.body = Form.encode pairs ∧
    AreTold content.fields pairs ∧ content.IsOrderly pairs

/-- A request whose form has the pairs of a content carries it. -/
theorem Content.isCarriedBy_of_form {content : Content} {r : Request}
    (h : r.form? = some content.pairs) : content.IsCarriedBy r := by
  have hbody : r.body = Form.encode content.pairs := by
    rw [Request.body, h]
    rfl
  refine ⟨?_, content.pairs, ?_, hbody, areTold_iff.mpr rfl, content.isOrderly⟩
  · rw [Request.contentType?, h]
    rfl
  · rw [hbody, Web.Form.decode?_encode]

/-- A request carries no two contents of one sort of form. -/
theorem Content.IsCarriedBy.unique {content content' : Content} {r : Request}
    (h : content.IsCarriedBy r) (h' : content'.IsCarriedBy r) (hsort : content.sort = content'.sort)
    (hc : AreTellable content.fields) (hc' : AreTellable content'.fields) :
    content = content' := by
  obtain ⟨pairs, hread, -, htold, -⟩ := h.body
  obtain ⟨pairs', hread', -, htold', -⟩ := h'.body
  obtain rfl : pairs = pairs' := Option.some.inj (hread.symm.trans hread')
  exact Content.eq_of_areTold hsort hc hc' htold htold'

/-- A client, whatever its endpoint, sends the content of a call in its form and nothing else: the
fields that are set, as they are declared. The form tells no other content whose values can be told
by a form at all, and any other call with that content, for whatever service, version or resource,
sends the same form. The request is for the path of the call, which for a change is the path of the
resource under its old name; and on a server that can be reached it is sent unless an identifier is
missing. -/
theorem Client.run_sends_form (c : Client) (i : Invocation) (s : Session)
    (hform : i.demand.sendsForm = true) :
    ∃ content, ∃ sent? : Option Request, i.content? = some content ∧
      ((c.run i.prepared).run.run s).2.requests = s.requests ++ sent?.toList ∧
      (∀ r ∈ sent?, content.IsCarriedBy r ∧
        (∀ content', content.sort = content'.sort → AreTellable content.fields →
          AreTellable content'.fields → content'.IsCarriedBy r → content = content') ∧
        (∀ j : Invocation, j.content? = some content →
          ∀ o, j.prepared = .ok o → o.form? = r.form?) ∧
        c.request? i.demand.method i.demand.address.text r.form? = some r ∧
        ∀ k ref newName? changes, i = .resource (.update k ref newName? changes) →
          c.request? .put (ref.path k) r.form? = some r) ∧
      ∀ key e agent u plan, Client.of? key e agent = .ok c → IsServer e u →
        i.demand.firstMissing? = none → s.server = .scripted plan → sent?.isSome := by
  obtain ⟨content, hcontent⟩ := Option.isSome_iff_exists.mp (i.isSome_content?.trans hform)
  obtain ⟨sent?, hrequests, hsent⟩ := c.requests_run (s := s) i.prepared
  refine ⟨content, sent?, hcontent, hrequests, ?_, ?_⟩
  · intro r hr
    obtain ⟨o, ho, hrequest⟩ := hsent r hr
    have hmeets := Invocation.meets_of_prepared ho
    have hpairs : r.form? = some content.pairs := by
      rw [Client.form_of_request hrequest, Invocation.form_of_prepared ho, hcontent]
      rfl
    have hcarried := Content.isCarriedBy_of_form hpairs
    have hpath : ∀ method path, method = i.demand.method → path = i.demand.address.text →
        c.request? method path r.form? = some r := by
      rintro method path rfl rfl
      rw [← hmeets.method, ← hmeets.path, Client.form_of_request hrequest, hrequest]
    refine ⟨hcarried, ?_, ?_, hpath _ _ rfl rfl, ?_⟩
    · intro content' hsort hc hc' hcarried'
      exact hcarried.unique hcarried' hsort hc hc'
    · intro j hj o' ho'
      rw [Invocation.form_of_prepared ho', hj, hpairs]
      rfl
    · rintro k ref newName? changes rfl
      have hitem : (Invocation.resource (.update k ref newName? changes)).demand.address.text =
          ref.path k := by
        show Address.text { parts := ref.parts k } = _
        rw [Address.text_of_parts, partsText_item]
      exact hpath .put (ref.path k) rfl hitem.symm
  · intro key e agent u plan hc hs hgiven hplan
    obtain ⟨o, -, -, hone, -⟩ := Client.run_of_isGiven hc hs hgiven s hplan
    rw [hrequests] at hone
    have hsome := List.append_cancel_left hone
    cases sent? with
    | none => cases hsome
    | some r => rfl

/-- Changes of a director: a quorum and a type. -/
def quorumByHash : VersionedKind.Changes .director :=
  .cons none (.cons none (.cons (some 75) (.cons (some .hash) (.cons none (.cons () (.cons () .nil))))))

/-- Settings of a log destination: a port, and encryption. -/
def encryptedLogs : VersionedKind.Changes .logentries :=
  .cons (some 20000) (.cons (some true) (.cons none (.cons none (.cons none (.cons none
    (.cons none .nil))))))

/-- A token for two services that expires. -/
def expiringToken : TokenRequest where
  username := "u"
  password := "p"
  services := ["a", "b"]
  expiresAt? := some
    { date := ⟨2030, 1, 2, by decide⟩, clock := { hour := 3, minute := 4, second := 5, nano := 0 } }

/-- The cases of a director that gets a new name with all the separators in it, a quorum and a type,
of a log destination with a flag, and of a token. -/
theorem Client.run_sends_form_loopback :
    ∃ c u, Client.of? "key" "http://[::1]:8080" = .ok c ∧ IsServer "http://[::1]:8080" u ∧
      (∃ r, ((c.run (updateItem .director ⟨⟨"abc", 1⟩, "old"⟩ (some "a&b=c+d %é")
          quorumByHash)).run.run (.start (.scripted []))).2.requests = [r] ∧
        Form.decode? r.body = some [("name", "a&b=c+d %é"), ("quorum", "75"), ("type", "3")]) ∧
      (∃ r, ((c.run (createItem .logentries ⟨⟨"abc", 1⟩, "logs"⟩
          encryptedLogs)).run.run (.start (.scripted []))).2.requests = [r] ∧
        Form.decode? r.body = some [("name", "logs"), ("port", "20000"), ("use_tls", "1")]) ∧
      ∃ r, ((c.run (createToken expiringToken)).run.run (.start (.scripted []))).2.requests = [r] ∧
        Form.decode? r.body = some [("username", "u"), ("password", "p"), ("services[]", "a"),
          ("services[]", "b"), ("expires_at", "2030-01-02T03:04:05Z")] := by
  obtain ⟨c, hc⟩ := exists_client_loopback
  have hsends (i : Invocation) (content : Content) (hform : i.demand.sendsForm = true)
      (hcontent : i.content? = some content) (hgiven : i.demand.firstMissing? = none) :
      ∃ r, ((c.run i.prepared).run.run (.start (.scripted []))).2.requests = [r] ∧
        Form.decode? r.body = some content.pairs := by
    obtain ⟨content', sent?, hcontent', hrequests, hsent, hreached⟩ :=
      Client.run_sends_form c i (.start (.scripted [])) hform
    obtain ⟨r, rfl⟩ := Option.isSome_iff_exists.mp
      (hreached _ _ _ _ _ hc isServer_loopback hgiven rfl)
    obtain rfl := Option.some.inj (hcontent.symm.trans hcontent')
    obtain ⟨pairs, hread, -, htold, -⟩ := (hsent r rfl).1.body
    refine ⟨r, hrequests, ?_⟩
    rw [hread, areTold_iff.mp htold]
    rfl
  refine ⟨c, _, hc, isServer_loopback, ?_, ?_, ?_⟩
  · exact hsends (.resource (.update .director ⟨⟨"abc", 1⟩, "old"⟩ (some "a&b=c+d %é")
      quorumByHash)) _ rfl rfl rfl
  · exact hsends (.resource (.create .logentries ⟨⟨"abc", 1⟩, "logs"⟩ encryptedLogs)) _ rfl rfl rfl
  · exact hsends (.createToken expiringToken) _ rfl rfl rfl

end EdgeConsole.Api
