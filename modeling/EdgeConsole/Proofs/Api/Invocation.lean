import EdgeConsole.Api.Account
import EdgeConsole.Proofs.Api.Address

/-!
# Invocations

An invocation is one of the operations with its arguments. `Invocation.prepared` hands the arguments
to the operation, and `Invocation.demand` is the catalogue: what each operation needs, in the order
in which it is asked for, and what it sends. `Invocation.isMetBy_prepared` says that the operations are
as catalogued; what follows about all of them is proved from the catalogue.
-/

namespace EdgeConsole.Api

open Resource (VersionedKind)

/-! ## Invocations -/

/-- An operation on the resources of a version with its arguments. -/
inductive ResourceInvocation
  | list (k : VersionedKind) (r : VersionRef)
  | create (k : VersionedKind) (r : NameRef) (changes : k.Changes)
  | get (k : VersionedKind) (r : NameRef)
  | update (k : VersionedKind) (r : NameRef) (newName? : Option String) (changes : k.Changes)
  | delete (k : VersionedKind) (r : NameRef)
  | createLink (r : LinkRef)
  | getLink (r : LinkRef)
  | deleteLink (r : LinkRef)

/-- An operation with its arguments. -/
inductive Invocation
  | resource (i : ResourceInvocation)
  | listVersions (service : String)
  | latestVersion (service : String)
  | createVersion (service : String) (comment? : Option String)
  | getVersion (r : VersionRef)
  | updateVersion (r : VersionRef) (comment? : Option String)
  | actOnVersion (r : VersionRef) (action : VersionAction)
  | validateVersion (r : VersionRef)
  | listServices
  | createService (name : String) (comment? : Option String)
  | getService (id : String)
  | getServiceDetails (id : String)
  | updateService (id : String) (name? comment? : Option String)
  | deleteService (id : String)
  | searchService (name : String)
  | listTokens
  | listCustomerTokens (customer : String)
  | getOwnToken
  | createToken (t : TokenRequest)
  | deleteToken (id : String)
  | deleteOwnToken
  | listCustomerUsers (customer : String)
  | getCurrentUser
  | getUser (id : String)
  | createUser (login : String) (name? role? : Option String)
  | updateUser (id : String) (name? role? : Option String)
  | deleteUser (id : String)
  | resetPassword (login : String)

/-- What the operation returns. -/
def ResourceInvocation.Result : ResourceInvocation → Type
  | .list k _ => List k.Item
  | .create k _ _ => k.Item
  | .get k _ => k.Item
  | .update k _ _ _ => k.Item
  | .delete _ _ => Unit
  | .createLink _ => Resource.DirectorBackend
  | .getLink _ => Resource.DirectorBackend
  | .deleteLink _ => Unit

/-- The operation. -/
def ResourceInvocation.prepared : (i : ResourceInvocation) → Prepared i.Result
  | .list k r => listItems k r
  | .create k r changes => createItem k r changes
  | .get k r => getItem k r
  | .update k r newName? changes => updateItem k r newName? changes
  | .delete k r => deleteItem k r
  | .createLink r => Api.createLink r
  | .getLink r => Api.getLink r
  | .deleteLink r => Api.deleteLink r

/-- What the operation returns. -/
def Invocation.Result : Invocation → Type
  | .resource i => i.Result
  | .listVersions _ => List Resource.Version
  | .latestVersion _ => Option Resource.Version
  | .createVersion _ _ => Resource.Version
  | .getVersion _ => Resource.Version
  | .updateVersion _ _ => Resource.Version
  | .actOnVersion _ _ => Resource.Version
  | .validateVersion _ => Resource.Validation
  | .listServices => List Resource.Service
  | .createService _ _ => Resource.Service
  | .getService _ => Resource.Service
  | .getServiceDetails _ => Resource.ServiceDetail
  | .updateService _ _ _ => Resource.Service
  | .deleteService _ => Unit
  | .searchService _ => Resource.Service
  | .listTokens => List Resource.Token
  | .listCustomerTokens _ => List Resource.Token
  | .getOwnToken => Resource.Token
  | .createToken _ => Resource.Token
  | .deleteToken _ => Unit
  | .deleteOwnToken => Unit
  | .listCustomerUsers _ => List Resource.User
  | .getCurrentUser => Resource.User
  | .getUser _ => Resource.User
  | .createUser _ _ _ => Resource.User
  | .updateUser _ _ _ => Resource.User
  | .deleteUser _ => Unit
  | .resetPassword _ => Unit

/-- The operation. -/
def Invocation.prepared : (i : Invocation) → Prepared i.Result
  | .resource i => i.prepared
  | .listVersions service => Api.listVersions service
  | .latestVersion service => Api.latestVersion service
  | .createVersion service comment? => Api.createVersion service comment?
  | .getVersion r => Api.getVersion r
  | .updateVersion r comment? => Api.updateVersion r comment?
  | .actOnVersion r action => Api.actOnVersion r action
  | .validateVersion r => Api.validateVersion r
  | .listServices => Api.listServices
  | .createService name comment? => Api.createService name comment?
  | .getService id => Api.getService id
  | .getServiceDetails id => Api.getServiceDetails id
  | .updateService id name? comment? => Api.updateService id name? comment?
  | .deleteService id => Api.deleteService id
  | .searchService name => Api.searchService name
  | .listTokens => Api.listTokens
  | .listCustomerTokens customer => Api.listCustomerTokens customer
  | .getOwnToken => Api.getOwnToken
  | .createToken t => Api.createToken t
  | .deleteToken id => Api.deleteToken id
  | .deleteOwnToken => Api.deleteOwnToken
  | .listCustomerUsers customer => Api.listCustomerUsers customer
  | .getCurrentUser => Api.getCurrentUser
  | .getUser id => Api.getUser id
  | .createUser login name? role? => Api.createUser login name? role?
  | .updateUser id name? role? => Api.updateUser id name? role?
  | .deleteUser id => Api.deleteUser id
  | .resetPassword login => Api.resetPassword login

/-! ## Demands -/

/-- An identifier, and what is missing if it is not given. -/
structure Need where
  isGiven : Bool
  missing : Missing
deriving DecidableEq, Repr

/-- An identifier that has to be a text that is not empty. -/
def Need.ofText (s : String) (m : Missing) : Need := ⟨!s.isEmpty, m⟩

/-- What an operation needs and what it sends. -/
structure Demand where
  /-- In the order in which they are asked for. -/
  needs : List Need
  method : Method
  address : Address
  sendsForm : Bool

/-- The first identifier that is missing. -/
def Demand.firstMissing? (d : Demand) : Option Missing :=
  (d.needs.find? (!·.isGiven)).map (·.missing)

/-- A version needs its service first. -/
def VersionRef.needs (r : VersionRef) : List Need :=
  [.ofText r.service .service, ⟨r.version != 0, .version⟩]

/-- A resource needs its version first. -/
def NameRef.needs (r : NameRef) : List Need :=
  r.toVersionRef.needs ++ [.ofText r.name .name]

/-- A link needs its version first, then its director. -/
def LinkRef.needs (r : LinkRef) : List Need :=
  r.toVersionRef.needs ++ [.ofText r.director .director, .ofText r.backend .backend]

/-- What the operation needs and sends. -/
def ResourceInvocation.demand : ResourceInvocation → Demand
  | .list k r => ⟨r.needs, .get, { parts := r.folder k }, false⟩
  | .create k r _ => ⟨r.needs, .post, { parts := r.toVersionRef.folder k }, true⟩
  | .get k r => ⟨r.needs, .get, { parts := r.parts k }, false⟩
  | .update k r _ _ => ⟨r.needs, .put, { parts := r.parts k }, true⟩
  | .delete k r => ⟨r.needs, .delete, { parts := r.parts k }, false⟩
  | .createLink r => ⟨r.needs, .post, { parts := r.parts }, false⟩
  | .getLink r => ⟨r.needs, .get, { parts := r.parts }, false⟩
  | .deleteLink r => ⟨r.needs, .delete, { parts := r.parts }, false⟩

/-- The word for an action on a version. -/
def VersionAction.word : VersionAction → Word
  | .activate => .activate
  | .deactivate => .deactivate
  | .clone => .clone
  | .lock => .lock

/-- What the operation needs and sends. -/
def Invocation.demand : Invocation → Demand
  | .resource i => i.demand
  | .listVersions s =>
    ⟨[.ofText s .service], .get, { parts := serviceParts s ++ [.word .version] }, false⟩
  | .latestVersion s =>
    ⟨[.ofText s .service], .get, { parts := serviceParts s ++ [.word .version] }, false⟩
  | .createVersion s _ =>
    ⟨[.ofText s .service], .post, { parts := serviceParts s ++ [.word .version] }, true⟩
  | .getVersion r => ⟨r.needs, .get, { parts := r.parts }, false⟩
  | .updateVersion r _ => ⟨r.needs, .put, { parts := r.parts }, true⟩
  | .actOnVersion r action => ⟨r.needs, .put, { parts := r.parts ++ [.word action.word] }, false⟩
  | .validateVersion r => ⟨r.needs, .get, { parts := r.parts ++ [.word .validate] }, false⟩
  | .listServices => ⟨[], .get, { parts := [.word .service] }, false⟩
  | .createService name _ => ⟨[.ofText name .name], .post, { parts := [.word .service] }, true⟩
  | .getService id => ⟨[.ofText id .service], .get, { parts := serviceParts id }, false⟩
  | .getServiceDetails id =>
    ⟨[.ofText id .service], .get, { parts := serviceParts id ++ [.word .details] }, false⟩
  | .updateService id _ _ => ⟨[.ofText id .service], .put, { parts := serviceParts id }, true⟩
  | .deleteService id => ⟨[.ofText id .service], .delete, { parts := serviceParts id }, false⟩
  | .searchService name =>
    ⟨[.ofText name .name], .get, ⟨[.word .service, .word .search], some name⟩, false⟩
  | .listTokens => ⟨[], .get, { parts := [.word .tokens] }, false⟩
  | .listCustomerTokens customer =>
    ⟨[.ofText customer .customerId], .get,
      { parts := [.word .customer, .identifier customer, .word .tokens] }, false⟩
  | .getOwnToken => ⟨[], .get, { parts := [.word .tokens, .word .self] }, false⟩
  | .createToken _ => ⟨[], .post, { parts := [.word .tokens] }, true⟩
  | .deleteToken id =>
    ⟨[.ofText id .tokenId], .delete, { parts := [.word .tokens, .identifier id] }, false⟩
  | .deleteOwnToken => ⟨[], .delete, { parts := [.word .tokens, .word .self] }, false⟩
  | .listCustomerUsers customer =>
    ⟨[.ofText customer .customerId], .get,
      { parts := [.word .customer, .identifier customer, .word .users] }, false⟩
  | .getCurrentUser => ⟨[], .get, { parts := [.word .currentUser] }, false⟩
  | .getUser id => ⟨[.ofText id .id], .get, { parts := [.word .user, .identifier id] }, false⟩
  | .createUser login _ _ => ⟨[.ofText login .login], .post, { parts := [.word .user] }, true⟩
  | .updateUser id _ _ =>
    ⟨[.ofText id .id], .put, { parts := [.word .user, .identifier id] }, true⟩
  | .deleteUser id =>
    ⟨[.ofText id .id], .delete, { parts := [.word .user, .identifier id] }, false⟩
  | .resetPassword login =>
    ⟨[.ofText login .login], .post,
      { parts := [.word .user, .identifier login, .word .password, .word .requestReset] }, false⟩

/-! ## The operations are as catalogued -/

/-- The check of needs: the first that is missing is reported. -/
def checkNeeds (needs : List Need) : Except Missing Unit :=
  match needs.find? (!·.isGiven) with
  | some n => .error n.missing
  | none => .ok ()

theorem require_eq (present : Bool) (m : Missing) : require present m = checkNeeds [⟨present, m⟩] := by
  cases present <;> rfl

theorem VersionRef.check_eq (r : VersionRef) : r.check = checkNeeds r.needs := by
  rw [VersionRef.check, requireService, VersionRef.needs, Need.ofText]
  cases r.service.isEmpty <;> cases r.version != 0 <;> rfl

theorem NameRef.check_eq (r : NameRef) : r.check = checkNeeds r.needs := by
  rw [NameRef.check, VersionRef.check, requireService, NameRef.needs, VersionRef.needs, Need.ofText,
    Need.ofText]
  cases r.service.isEmpty <;> cases r.version != 0 <;> cases r.name.isEmpty <;> rfl

theorem LinkRef.check_eq (r : LinkRef) : r.check = checkNeeds r.needs := by
  rw [LinkRef.check, VersionRef.check, requireService, LinkRef.needs, VersionRef.needs, Need.ofText,
    Need.ofText, Need.ofText]
  cases r.service.isEmpty <;> cases r.version != 0 <;> cases r.director.isEmpty <;>
    cases r.backend.isEmpty <;> rfl

/-- The operation sends what is catalogued. -/
structure Operation.Meets {α : Type} (o : Operation α) (d : Demand) : Prop where
  method : o.method = d.method
  path : o.path = d.address.text
  form : o.form?.isSome = d.sendsForm

/-- The operation that the invocation prepares checks its needs and then sends what is catalogued. -/
def Demand.IsMetBy {α : Type} (d : Demand) (p : Prepared α) : Prop :=
  ∃ o : Operation α, p = checked (checkNeeds d.needs) o ∧ o.Meets d

theorem Demand.isMetBy_checked {α : Type} {check : Except Missing Unit} {needs : List Need}
    {parts : List Part} (hcheck : check = checkNeeds needs) (o : Operation α)
    (hpath : o.path = partsText parts) :
    IsMetBy ⟨needs, o.method, { parts }, o.form?.isSome⟩ (checked check o) := by
  refine ⟨o, by rw [hcheck], rfl, ?_, rfl⟩
  rw [hpath, Address.text_of_parts]

/-- The operations on the resources of a version are as catalogued. -/
theorem ResourceInvocation.isMetBy_prepared (i : ResourceInvocation) :
    i.demand.IsMetBy i.prepared := by
  cases i with
  | list k r => exact Demand.isMetBy_checked r.check_eq _ (partsText_folder r k).symm
  | create k r changes =>
    exact Demand.isMetBy_checked r.check_eq _ (partsText_folder r.toVersionRef k).symm
  | get k r => exact Demand.isMetBy_checked r.check_eq _ (partsText_item r k).symm
  | update k r newName? changes =>
    exact Demand.isMetBy_checked r.check_eq _ (partsText_item r k).symm
  | delete k r => exact Demand.isMetBy_checked r.check_eq _ (partsText_item r k).symm
  | createLink r => exact Demand.isMetBy_checked r.check_eq _ (partsText_link r).symm
  | getLink r => exact Demand.isMetBy_checked r.check_eq _ (partsText_link r).symm
  | deleteLink r => exact Demand.isMetBy_checked r.check_eq _ (partsText_link r).symm

theorem Demand.IsMetBy.map {α β : Type} {d : Demand} {p : Prepared α} (h : d.IsMetBy p)
    (f : α → β) : d.IsMetBy (p.map (Operation.map f)) := by
  obtain ⟨o, rfl, hmeets⟩ := h
  refine ⟨o.map f, ?_, hmeets.method, hmeets.path, hmeets.form⟩
  cases checkNeeds d.needs <;> rfl

/-- All operations are as catalogued. -/
theorem Invocation.isMetBy_prepared (i : Invocation) : i.demand.IsMetBy i.prepared := by
  have hfree : (.ok () : Except Missing Unit) = checkNeeds [] := rfl
  have hservice (s : String) : requireService s = checkNeeds [.ofText s .service] := require_eq _ _
  have hword (w : Word) (path : String) (h : path = "/" ++ w.text) : path = partsText [.word w] :=
    h.trans (partsText_word w).symm
  cases i with
  | resource i => exact i.isMetBy_prepared
  | listVersions service =>
    exact Demand.isMetBy_checked (hservice service) _ (partsText_versions service).symm
  | latestVersion service =>
    have hlist : (Invocation.listVersions service).demand.IsMetBy (Api.listVersions service) :=
      Demand.isMetBy_checked (hservice service) _ (partsText_versions service).symm
    exact hlist.map _
  | createVersion service comment? =>
    exact Demand.isMetBy_checked (hservice service) _ (partsText_versions service).symm
  | getVersion r => exact Demand.isMetBy_checked r.check_eq _ (partsText_version r).symm
  | updateVersion r comment? => exact Demand.isMetBy_checked r.check_eq _ (partsText_version r).symm
  | actOnVersion r action =>
    refine Demand.isMetBy_checked r.check_eq _ ?_
    rw [partsText_append_word, partsText_version]
    cases action <;> exact String.append_assoc ..
  | validateVersion r =>
    refine Demand.isMetBy_checked r.check_eq _ ?_
    rw [partsText_append_word, partsText_version]
    exact congrArg (versionPath r.service r.version ++ ·) (by decide)
  | listServices => exact Demand.isMetBy_checked hfree _ (hword _ _ (by decide))
  | createService name comment? =>
    exact Demand.isMetBy_checked (require_eq _ _) _ (hword .service "/service" (by decide))
  | getService id => exact Demand.isMetBy_checked (hservice id) _ (partsText_serviceParts id).symm
  | getServiceDetails id =>
    refine Demand.isMetBy_checked (hservice id) _ ?_
    rw [partsText_append_word, partsText_serviceParts]
    exact congrArg (servicePath id ++ ·) (by decide)
  | updateService id name? comment? =>
    exact Demand.isMetBy_checked (hservice id) _ (partsText_serviceParts id).symm
  | deleteService id =>
    exact Demand.isMetBy_checked (hservice id) _ (partsText_serviceParts id).symm
  | searchService name =>
    exact ⟨_, congrArg (checked · _) (require_eq _ _), rfl, (text_search name).symm, rfl⟩
  | listTokens => exact Demand.isMetBy_checked hfree _ (hword _ _ (by decide))
  | listCustomerTokens customer =>
    exact Demand.isMetBy_checked (require_eq _ _) _ (partsText_customer customer .tokens).symm
  | getOwnToken => exact Demand.isMetBy_checked hfree _ (by decide)
  | createToken t => exact Demand.isMetBy_checked hfree _ (hword .tokens "/tokens" (by decide))
  | deleteToken id => exact Demand.isMetBy_checked (require_eq _ _) _ (partsText_token id).symm
  | deleteOwnToken => exact Demand.isMetBy_checked hfree _ (by decide)
  | listCustomerUsers customer =>
    exact Demand.isMetBy_checked (require_eq _ _) _ (partsText_customer customer .users).symm
  | getCurrentUser => exact Demand.isMetBy_checked hfree _ (hword _ _ (by decide))
  | getUser id => exact Demand.isMetBy_checked (require_eq _ _) _ (partsText_user id).symm
  | createUser login name? role? =>
    exact Demand.isMetBy_checked (require_eq _ _) _ (hword .user "/user" (by decide))
  | updateUser id name? role? =>
    exact Demand.isMetBy_checked (require_eq _ _) _ (partsText_user id).symm
  | deleteUser id => exact Demand.isMetBy_checked (require_eq _ _) _ (partsText_user id).symm
  | resetPassword login =>
    exact Demand.isMetBy_checked (require_eq _ _) _ (partsText_reset login).symm

/-- The check refuses an invocation for the first identifier that is missing, and for no other
reason. -/
theorem Invocation.prepared_eq_error_iff {i : Invocation} {m : Missing} :
    i.prepared = .error m ↔ i.demand.firstMissing? = some m := by
  obtain ⟨o, ho, -⟩ := i.isMetBy_prepared
  rw [ho, checkNeeds, Demand.firstMissing?]
  cases i.demand.needs.find? (!·.isGiven) with
  | none => exact ⟨nofun, nofun⟩
  | some n =>
    exact ⟨fun h => congrArg some (Except.error.inj h), fun h => congrArg _ (Option.some.inj h)⟩

/-- An invocation that lacks nothing prepares an operation that sends what is catalogued. -/
theorem Invocation.exists_prepared_eq_ok_iff {i : Invocation} :
    (∃ o, i.prepared = .ok o) ↔ i.demand.firstMissing? = none := by
  cases hm : i.demand.firstMissing? with
  | none =>
    refine iff_of_true ?_ rfl
    cases hp : i.prepared with
    | ok o => exact ⟨o, rfl⟩
    | error m => rw [prepared_eq_error_iff.mp hp] at hm; cases hm
  | some m =>
    rw [prepared_eq_error_iff.mpr hm]
    exact iff_of_false (fun ⟨o, ho⟩ => by cases ho) (by simp)

theorem Invocation.meets_of_prepared {i : Invocation} {o : Operation i.Result}
    (h : i.prepared = .ok o) : o.Meets i.demand := by
  obtain ⟨o', hprepared, hmeets⟩ := i.isMetBy_prepared
  rw [h] at hprepared
  cases hcheck : checkNeeds i.demand.needs with
  | error m => rw [hcheck] at hprepared; cases hprepared
  | ok _ =>
    rw [hcheck] at hprepared
    obtain rfl := Except.ok.inj hprepared
    exact hmeets

end EdgeConsole.Api
