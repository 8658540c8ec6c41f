import EdgeConsole.Proofs.Console.Errand

/-!
# Dispatch does what the operations of a kind do

Behind every action of a kind stands an operation of the API. `listing`, `fetching` and
`deletion?` say which: a listing or a fetch runs the operation on the session at hand and turns what
it returns into JSON. The console goes by keys instead, and looks them up in several tables. Here the
tables are shown to lead from the key of each kind to its operation and to no other.

`dispatch_refines` puts the three actions together: a key of no kind, or of a kind without the
action, is refused and leaves the session alone, and any other does as the operation does.
-/

namespace EdgeConsole.Console

open Api
open Catalog (Action Kind)
open Record (Row)
open Resource (VersionedKind User)

/-! ## The operations of the kinds -/

variable (c : Client) (ctx : Context) (name : String) (s : Session)

/-- Lists the users of a customer. -/
def usersOf (customer : String) (s : Session) : Except Problem (List Json) × Session :=
  carried (·.map Row.toJson) ((c.run (listCustomerUsers customer)).run.run s)

/-- The listing of a kind. Without a customer the users are those of the customer of the user whom
the key belongs to, who is asked for first. -/
def listing : Kind → Except Problem (List Json) × Session
  | .versioned k => carried (·.map Row.toJson) ((c.run (listItems k ctx.versionRef)).run.run s)
  | .services => carried (·.map Row.toJson) ((c.run listServices).run.run s)
  | .versions => carried (·.map Row.toJson) ((c.run (listVersions ctx.service)).run.run s)
  | .tokens => carried (·.map Row.toJson) ((c.run listTokens).run.run s)
  | .users =>
    match ctx.customer? with
    | some customer => usersOf c customer s
    | none =>
      match (c.run getCurrentUser).run.run s with
      | (.error e, t) => (.error (.api e), t)
      | (.ok user, t) =>
        match User.customer? user with
        | some customer => if customer = "" then (.error .noCustomer, t) else usersOf c customer t
        | none => (.error .noCustomer, t)

/-- The fetching of an item of a kind. Of versions it is the number that is named, and of tokens
there is only the client's own. -/
def fetching : Kind → Except Problem Json × Session
  | .versioned k => carried Row.toJson ((c.run (getItem k (ctx.versionRef.named name))).run.run s)
  | .services => carried Row.toJson ((c.run (getService name)).run.run s)
  | .versions =>
    match Number.readWord32 name with
    | .ok number => carried Row.toJson ((c.run (getVersion ⟨ctx.service, number⟩)).run.run s)
    | .error fault => (.error (.badVersionNumber name fault), s)
  | .tokens =>
    if name = "self" then carried Row.toJson ((c.run getOwnToken).run.run s)
    else (.error .foreignToken, s)
  | .users =>
    if name = "current" then carried Row.toJson ((c.run getCurrentUser).run.run s)
    else carried Row.toJson ((c.run (getUser name)).run.run s)

/-- The operation that deletes an item of a kind; there is none for versions. -/
def deletion? : Kind → Option (Prepared Unit)
  | .versioned k => some (deleteItem k (ctx.versionRef.named name))
  | .services => some (deleteService name)
  | .versions => none
  | .tokens => some (if name = "self" then deleteOwnToken else deleteToken name)
  | .users => some (deleteUser name)

/-! ## From keys to kinds -/

theorem ofKey?_key (k : Kind) : Kind.ofKey? k.key = some k := by
  cases k with
  | versioned k => cases k <;> rfl
  | _ => rfl

theorem key_of_ofKey? {key : String} {k : Kind} (h : Kind.ofKey? key = some k) : key = k.key := by
  have hkey := List.find?_some h
  simpa using (beq_iff_eq.mp hkey).symm

/-- A key is looked up in the table of versioned kinds and found if its kind is one. -/
theorem lookup_versionedWords (k : VersionedKind) : versionedWords.lookup k.key = some k := by
  cases k <;> rfl

/-- How a key is spelled after the path of its kind: in the plural, or with hyphens if the path has
several segments. -/
def spelledKey (segment : String) : String :=
  if '/' ∈ segment.toList then
    String.ofList (segment.toList.map fun c => if c = '/' then '-' else c)
  else segment ++ "s"

theorem key_eq_spelledKey (k : VersionedKind) : k.key = spelledKey k.segment := by
  cases k <;> decide

theorem lookup_key (k : Kind) (action : Action) :
    lookup k.key action =
      if k.definition.supports action then .ok k.definition
      else .error (.unsupported k.definition.displayName action) := by
  rw [lookup, ofKey?_key]

/-! ## Listing -/

theorem run_customerOf (s : Session) :
    (customerOf c ctx).run.run s =
      match ctx.customer? with
      | some customer => (.ok customer, s)
      | none =>
        match (c.run getCurrentUser).run.run s with
        | (.error e, t) => (.error (.api e), t)
        | (.ok user, t) =>
          match User.customer? user with
          | some customer => if customer = "" then (.error .noCustomer, t) else (.ok customer, t)
          | none => (.error .noCustomer, t) := by
  unfold customerOf
  cases ctx.customer? with
  | some customer => rfl
  | none =>
    dsimp only
    rw [Errand.run_bind, Errand.run_ask]
    generalize (c.run getCurrentUser).run.run s = run
    obtain ⟨e | user, t⟩ := run
    · rfl
    · dsimp only [carried, id]
      cases User.customer? user with
      | none => rfl
      | some customer =>
        by_cases hempty : customer = ""
        · subst hempty
          rfl
        · have hkept : (some customer).filter (!·.isEmpty) = some customer := by simp [hempty]
          rw [hkept]
          dsimp only
          rw [if_neg hempty]
          rfl

/-- Apart from its note, a listing does as the operation of the kind. -/
theorem run_list_key (k : Kind) (h : k.definition.supports .list = true) :
    (list c ctx k.key).run.run s = listing c ctx (s.note .debug ("list: kind=" ++ k.key)) k := by
  unfold list
  rw [Errand.run_lift_bind, lookup_key, if_pos h]
  dsimp only
  rw [Errand.run_note_bind]
  cases k with
  | versioned k =>
    rw [Kind.key, lookup_versionedWords]
    exact Errand.run_askItems _ c _
  | services => exact Errand.run_askItems _ c listServices
  | versions => exact Errand.run_askItems _ c (listVersions ctx.service)
  | tokens => exact Errand.run_askItems _ c listTokens
  | users =>
    change ((do
      let customer ← customerOf c ctx
      askItems c (listCustomerUsers customer) : Errand (List Json))).run.run _ = _
    rw [Errand.run_bind, run_customerOf]
    unfold listing
    cases ctx.customer? with
    | some customer => exact Errand.run_askItems _ c (listCustomerUsers customer)
    | none =>
      dsimp only
      generalize (c.run getCurrentUser).run.run _ = run
      obtain ⟨e | user, t⟩ := run
      · rfl
      · dsimp only
        cases User.customer? user with
        | none => rfl
        | some customer =>
          by_cases hempty : customer = ""
          · simp only [if_pos hempty]
          · simp only [if_neg hempty]
            exact Errand.run_askItems _ c (listCustomerUsers customer)

/-! ## Fetching and deleting -/

/-- Apart from its note, a fetch does as the operation of the kind. -/
theorem run_get_key (k : Kind) (h : k.definition.supports .get = true) :
    (get c ctx k.key name).run.run s =
      fetching c ctx name
        (s.note .debug ("get: kind=" ++ k.key ++ ", " ++ k.definition.itemLabel name)) k := by
  unfold get
  rw [Errand.run_lift_bind, lookup_key, if_pos h]
  dsimp only
  rw [Errand.run_note_bind]
  cases k with
  | versioned k =>
    rw [Kind.key, lookup_versionedWords]
    exact Errand.run_askItem _ c _
  | services => exact Errand.run_askItem _ c (getService name)
  | versions =>
    unfold fetching
    generalize Number.readWord32 name = result
    cases result with
    | error fault => rfl
    | ok number => exact Errand.run_askItem _ c (getVersion ⟨ctx.service, number⟩)
  | tokens =>
    change ((if name = "self" then askItem c getOwnToken else throw .foreignToken :
      Errand Json)).run.run _ = _
    unfold fetching
    by_cases hown : name = "self"
    · simp only [if_pos hown]
      exact Errand.run_askItem _ c getOwnToken
    · simp only [if_neg hown]
      rfl
  | users =>
    change (askItem c (if name = "current" then getCurrentUser else getUser name)).run.run _ = _
    unfold fetching
    by_cases hown : name = "current"
    · simp only [if_pos hown]
      exact Errand.run_askItem _ c getCurrentUser
    · simp only [if_neg hown]
      exact Errand.run_askItem _ c (getUser name)

/-- Apart from its note, a deletion is the operation of the kind, which is there if the kind has the
action. -/
theorem run_delete_key (k : Kind) (h : k.definition.supports .delete = true) :
    ∃ p, deletion? ctx name k = some p ∧ (delete c ctx k.key name).run.run s =
      carried id ((c.run p).run.run
        (s.note .info ("delete: kind=" ++ k.key ++ ", " ++ k.definition.itemLabel name))) := by
  unfold delete
  rw [Errand.run_lift_bind, lookup_key, if_pos h]
  dsimp only
  rw [Errand.run_note_bind]
  cases k with
  | versioned k =>
    rw [Kind.key, lookup_versionedWords]
    exact ⟨_, rfl, Errand.run_ask _ c _⟩
  | services => exact ⟨_, rfl, Errand.run_ask _ c _⟩
  | versions => exact absurd h (by decide)
  | tokens => exact ⟨_, rfl, Errand.run_ask _ c _⟩
  | users => exact ⟨_, rfl, Errand.run_ask _ c _⟩

/-! ## Kinds that belong to a version -/

section Versioned

variable (k : VersionedKind)

theorem run_list_versioned :
    (list c ctx k.key).run.run s =
      carried (·.map Row.toJson) ((c.run (listItems k ctx.versionRef)).run.run
        (s.note .debug ("list: kind=" ++ k.key))) :=
  run_list_key c ctx s (.versioned k) rfl

theorem run_get_versioned :
    (get c ctx k.key name).run.run s =
      carried Row.toJson ((c.run (getItem k (ctx.versionRef.named name))).run.run
        (s.note .debug ("get: kind=" ++ k.key ++ ", " ++
          (Kind.versioned k).definition.itemLabel name))) :=
  run_get_key c ctx name s (.versioned k) rfl

theorem run_delete_versioned :
    (delete c ctx k.key name).run.run s =
      carried id ((c.run (deleteItem k (ctx.versionRef.named name))).run.run
        (s.note .info ("delete: kind=" ++ k.key ++ ", " ++
          (Kind.versioned k).definition.itemLabel name))) := by
  obtain ⟨p, hp, hrun⟩ := run_delete_key c ctx name s (.versioned k) rfl
  obtain rfl := Option.some.inj hp
  exact hrun

end Versioned

/-! ## Sessions up to their logs -/

section Same

variable {α β : Type}

/-- The two runs differ in nothing but the log. -/
def IsSame (run run' : Except Problem α × Session) : Prop := run.1 = run'.1 ∧ run.2.Agrees run'.2

variable {s t : Session}

theorem isSame_carried (h : s.Agrees t) (f : α → β) (p : Prepared α) :
    IsSame (carried f ((c.run p).run.run s)) (carried f ((c.run p).run.run t)) := by
  obtain ⟨hresult, hagrees⟩ := c.run_congr p h
  constructor
  · rw [fst_carried, fst_carried, hresult]
  · rwa [snd_carried, snd_carried]

theorem isSame_listing (h : s.Agrees t) (k : Kind) :
    IsSame (listing c ctx s k) (listing c ctx t k) := by
  cases k with
  | versioned k => exact isSame_carried c h _ _
  | services => exact isSame_carried c h _ _
  | versions => exact isSame_carried c h _ _
  | tokens => exact isSame_carried c h _ _
  | users =>
    unfold listing
    cases ctx.customer? with
    | some customer => exact isSame_carried c h _ _
    | none =>
      obtain ⟨hresult, hagrees⟩ := c.run_congr getCurrentUser h
      dsimp only
      generalize (c.run getCurrentUser).run.run s = run at hresult hagrees ⊢
      generalize (c.run getCurrentUser).run.run t = run' at hresult hagrees ⊢
      obtain ⟨result, s'⟩ := run
      obtain ⟨result', t'⟩ := run'
      dsimp only at hresult hagrees
      subst hresult
      cases result with
      | error e => exact ⟨rfl, hagrees⟩
      | ok user =>
        dsimp only
        cases User.customer? user with
        | none => exact ⟨rfl, hagrees⟩
        | some customer =>
          by_cases hempty : customer = ""
          · simp only [if_pos hempty]
            exact ⟨rfl, hagrees⟩
          · simp only [if_neg hempty]
            exact isSame_carried c hagrees _ _

theorem isSame_fetching (h : s.Agrees t) (k : Kind) :
    IsSame (fetching c ctx name s k) (fetching c ctx name t k) := by
  cases k with
  | versioned k => exact isSame_carried c h _ _
  | services => exact isSame_carried c h _ _
  | versions =>
    unfold fetching
    cases Number.readWord32 name with
    | error fault => exact ⟨rfl, h⟩
    | ok number => exact isSame_carried c h _ _
  | tokens =>
    unfold fetching
    by_cases hown : name = "self"
    · simp only [if_pos hown]
      exact isSame_carried c h _ _
    · simp only [if_neg hown]
      exact ⟨rfl, h⟩
  | users =>
    unfold fetching
    by_cases hown : name = "current"
    · simp only [if_pos hown]
      exact isSame_carried c h _ _
    · simp only [if_neg hown]
      exact isSame_carried c h _ _

end Same

/-! ## The three actions -/

/-- What becomes of an action on the kind with a key: without such a kind, or without the action, it
is refused and nothing happens, and otherwise it is done as is said. -/
def Dispatches {α : Type} (key : String) (action : Action) (s : Session)
    (said? : Kind → Option (Except Problem α × Session)) (run : Except Problem α × Session) :
    Prop :=
  match Kind.ofKey? key with
  | none => run = (.error (.unknownKind key), s)
  | some k =>
    match said? k with
    | none => k.definition.supports action = false ∧
      run = (.error (.unsupported k.definition.displayName action), s)
    | some said => k.definition.supports action = true ∧ IsSame run said

/-- The run does not end for lack of an operation. -/
def HasOperation {α : Type} (run : Except Problem α × Session) : Prop :=
  ∀ action key, run.1 ≠ .error (.noOperation action key)

theorem supports_list (k : Kind) : k.definition.supports .list = true := by
  cases k <;> rfl

theorem supports_get (k : Kind) : k.definition.supports .get = true := by
  cases k <;> rfl

theorem supports_delete (k : Kind) :
    k.definition.supports .delete = (deletion? ctx name k).isSome := by
  cases k <;> rfl

variable (key : String)

theorem list_dispatches :
    Dispatches key .list s (fun k => some (listing c ctx s k)) ((list c ctx key).run.run s) := by
  unfold Dispatches
  cases hkey : Kind.ofKey? key with
  | none =>
    unfold list
    rw [Errand.run_lift_bind, lookup, hkey]
  | some k =>
    obtain rfl := key_of_ofKey? hkey
    refine ⟨supports_list k, ?_⟩
    rw [run_list_key c ctx s k (supports_list k)]
    exact isSame_listing c ctx (s.agrees_note _ _) k

theorem get_dispatches :
    Dispatches key .get s (fun k => some (fetching c ctx name s k))
      ((get c ctx key name).run.run s) := by
  unfold Dispatches
  cases hkey : Kind.ofKey? key with
  | none =>
    unfold get
    rw [Errand.run_lift_bind, lookup, hkey]
  | some k =>
    obtain rfl := key_of_ofKey? hkey
    refine ⟨supports_get k, ?_⟩
    rw [run_get_key c ctx name s k (supports_get k)]
    exact isSame_fetching c ctx name (s.agrees_note _ _) k

theorem delete_dispatches :
    Dispatches key .delete s
      (fun k => (deletion? ctx name k).map fun p => carried id ((c.run p).run.run s))
      ((delete c ctx key name).run.run s) := by
  unfold Dispatches
  cases hkey : Kind.ofKey? key with
  | none =>
    unfold delete
    rw [Errand.run_lift_bind, lookup, hkey]
  | some k =>
    obtain rfl := key_of_ofKey? hkey
    have hsupports := supports_delete ctx name k
    cases hk : k.definition.supports .delete with
    | true =>
      obtain ⟨p, hp, hrun⟩ := run_delete_key c ctx name s k hk
      simp only [hp, Option.map_some]
      refine ⟨hk, ?_⟩
      rw [hrun]
      exact isSame_carried c (s.agrees_note _ _) id p
    | false =>
      rw [hk] at hsupports
      have hnone : deletion? ctx name k = none := by simpa using hsupports.symm
      simp only [hnone, Option.map_none]
      refine ⟨hk, ?_⟩
      unfold delete
      rw [Errand.run_lift_bind, lookup_key, hk]
      rfl

theorem hasOperation_carried {α β : Type} (f : α → β) (run : Except Failure α × Session) :
    HasOperation (carried f run) := by
  obtain ⟨e | a, t⟩ := run <;> exact nofun

theorem hasOperation_listing (k : Kind) : HasOperation (listing c ctx s k) := by
  cases k with
  | versioned k => exact hasOperation_carried _ _
  | services => exact hasOperation_carried _ _
  | versions => exact hasOperation_carried _ _
  | tokens => exact hasOperation_carried _ _
  | users =>
    unfold listing
    dsimp only
    split
    · exact hasOperation_carried _ _
    · split
      · exact nofun
      · split
        · split
          · exact nofun
          · exact hasOperation_carried _ _
        · exact nofun

theorem hasOperation_fetching (k : Kind) : HasOperation (fetching c ctx name s k) := by
  cases k with
  | versioned k => exact hasOperation_carried _ _
  | services => exact hasOperation_carried _ _
  | versions =>
    unfold fetching
    dsimp only
    split
    · exact hasOperation_carried _ _
    · exact nofun
  | tokens =>
    unfold fetching
    dsimp only
    split
    · exact hasOperation_carried _ _
    · exact nofun
  | users =>
    unfold fetching
    dsimp only
    split <;> exact hasOperation_carried _ _

theorem Dispatches.hasOperation {α : Type} {key : String} {action : Action} {s : Session}
    {said? : Kind → Option (Except Problem α × Session)} {run : Except Problem α × Session}
    (h : Dispatches key action s said? run)
    (hsaid : ∀ k, ∀ said ∈ said? k, HasOperation said) : HasOperation run := by
  unfold Dispatches at h
  split at h
  · rw [h]
    exact nofun
  · next k hk =>
    split at h
    · rw [h.2]
      exact nofun
    · next said hsome =>
      have hoperation := hsaid k said hsome
      intro action key
      rw [h.2.1]
      exact hoperation action key

/-- An action that succeeds is one of a kind, and its result is that of the kind. -/
theorem Dispatches.exists_kind {α : Type} {key : String} {action : Action} {s : Session}
    {said? : Kind → Option (Except Problem α × Session)} {run : Except Problem α × Session}
    (h : Dispatches key action s said? run) {a : α} (hrun : run.1 = .ok a) :
    ∃ k said, Kind.ofKey? key = some k ∧ said? k = some said ∧ said.1 = .ok a := by
  unfold Dispatches at h
  split at h
  · rw [h] at hrun
    cases hrun
  · next k hk =>
    split at h
    · rw [h.2] at hrun
      cases hrun
    · next said hsaid => exact ⟨k, said, hk, hsaid, h.2.1 ▸ hrun⟩

/-- Every action on every key does as the operation of its kind. Which kind that is, the spelling of
the key tells. -/
theorem dispatch_refines :
    Dispatches key .list s (fun k => some (listing c ctx s k)) ((list c ctx key).run.run s) ∧
    Dispatches key .get s (fun k => some (fetching c ctx name s k))
      ((get c ctx key name).run.run s) ∧
    Dispatches key .delete s
      (fun k => (deletion? ctx name k).map fun p => carried id ((c.run p).run.run s))
      ((delete c ctx key name).run.run s) ∧
    HasOperation ((list c ctx key).run.run s) ∧ HasOperation ((get c ctx key name).run.run s) ∧
    HasOperation ((delete c ctx key name).run.run s) ∧
    ∀ k : VersionedKind, Kind.ofKey? key = some (.versioned k) → key = spelledKey k.segment := by
  have hlist := list_dispatches c ctx s key
  have hget := get_dispatches c ctx name s key
  have hdelete := delete_dispatches c ctx name s key
  refine ⟨hlist, hget, hdelete, hlist.hasOperation ?_, hget.hasOperation ?_,
    hdelete.hasOperation ?_, fun k hk => (key_of_ofKey? hk).trans (key_eq_spelledKey k)⟩
  · intro k said hsaid
    obtain rfl := Option.some.inj hsaid
    exact hasOperation_listing c ctx s k
  · intro k said hsaid
    obtain rfl := Option.some.inj hsaid
    exact hasOperation_fetching c ctx name s k
  · intro k said hsaid
    obtain ⟨p, -, rfl⟩ := Option.map_eq_some_iff.mp hsaid
    exact hasOperation_carried _ _

/-- A token other than the client's own cannot be fetched, though tokens can: nothing is asked, and
the result is that of no operation. -/
theorem get_foreign_token :
    Kind.tokens.definition.supports .get = true ∧
      (∀ c s, ∃ t, (get c {} "tokens" "abc").run.run s = (.error .foreignToken, t) ∧ t.Agrees s) ∧
      ∀ (α : Type) (f : α → Json) (run : Except Failure α × Session),
        (carried f run).1 ≠ .error .foreignToken := by
  refine ⟨rfl, ?_, ?_⟩
  · intro c s
    exact ⟨_, run_get_key c {} "abc" s .tokens rfl, s.agrees_note _ _⟩
  · rintro α f ⟨e | a, s⟩ <;> exact nofun

end EdgeConsole.Console
