import EdgeConsole.Proofs.Api.Validation
import EdgeConsole.Proofs.Json.Reading

/-!
# Classification of answers

Every operation judges an answer in one way. No answer is a failure of transport. A status that is
no success is a refusal, whatever the body is (`Refuses`). In an answer with success it is the body
that decides, and there each operation has its own reading (`Invocation.reading`): a value, a list,
a part of a value, or the word that an action was carried out (`Reading.Accepts`).

`Client.run_classifies` puts the three together for all operations.
-/

namespace EdgeConsole.Api

open Json (Outline ReadError)
open Resource (VersionedKind)
open Web (Status)

/-! ## Readings -/

/-- What the body of an answer is read for. -/
inductive Reading : Type → Type 1
  /-- A value. -/
  | value {α : Type} (read : Outline → Except ReadError α) : Reading α
  /-- A list, which is put in order. -/
  | list {α : Type} (read : Outline → Except ReadError (List α)) : Reading (List α)
  /-- A value, of which a part is returned. -/
  | part {α β : Type} (read : Outline → Except ReadError α) (pick : α → β) : Reading β
  /-- Whether an action was carried out. -/
  | outcome : Reading Unit

/-- The result is what the body has to be read as. -/
def Reading.Accepts {α : Type} : Reading α → String → Except Failure α → Prop
  | .value read, body, result =>
    match Json.readText read (bodyOrNull body) with
    | .ok v => result = .ok v
    | .error e => result = .error (.undecodable e)
  | .list read, body, result =>
    match Json.readText read (bodyOrNull body) with
    | .ok items => ∃ sorted, result = .ok sorted ∧ sorted.Perm items
    | .error e => result = .error (.undecodable e)
  | .part read pick, body, result =>
    match Json.readText read (bodyOrNull body) with
    | .ok v => result = .ok (pick v)
    | .error e => result = .error (.undecodable e)
  | .outcome, body, result =>
    if Text.isBlankText body then result = .ok ()
    else
      match outcomeSchema.readText body with
      | .ok row =>
        if (outcomeTexts row).1 = "ok" then result = .ok ()
        else result = .error (.notOk ((outcomeTexts row).2.getD (outcomeTexts row).1))
      | .error e => result = .error (.undecodable e)

/-- The reader decides every body as the reading says. -/
def Reading.Reads {α : Type} (rd : Reading α) (read : String → Except Failure α) : Prop :=
  ∀ body, rd.Accepts body (read body)

theorem reads_readBody {α : Type} (read : Outline → Except ReadError α) :
    (Reading.value read).Reads (readBody read) := by
  intro body
  rw [Reading.Accepts, readBody]
  cases Json.readText read (bodyOrNull body) <;> rfl

theorem reads_list {α : Type} {arrange : List α → List α} (h : ∀ l, (arrange l).Perm l)
    (read : Outline → Except ReadError (List α)) :
    (Reading.list read).Reads fun body => (readBody read body).map arrange := by
  intro body
  dsimp only
  rw [Reading.Accepts, readBody]
  cases Json.readText read (bodyOrNull body) with
  | ok items => exact ⟨arrange items, rfl, h items⟩
  | error e => rfl

theorem reads_part {α β : Type} (read : Outline → Except ReadError α) (pick : α → β) :
    (Reading.part read pick).Reads fun body => (readBody read body).map pick := by
  intro body
  dsimp only
  rw [Reading.Accepts, readBody]
  cases Json.readText read (bodyOrNull body) <;> rfl

theorem reads_readStatus : Reading.outcome.Reads readStatus := by
  intro body
  rw [Reading.Accepts, readStatus]
  split
  · rfl
  · cases outcomeSchema.readText body with
    | error e => rfl
    | ok row =>
      dsimp only
      split <;> rfl

/-! ## The readings of the operations -/

/-- A record. -/
def itemReading {κ : Type} [Record.FieldKind κ] (s : Record.Schema κ) : Reading s.Value :=
  .value (s.read Json.depthLimit)

/-- A list of records. -/
def itemsReading {κ : Type} [Record.FieldKind κ] (s : Record.Schema κ) : Reading (List s.Value) :=
  .list (·.readList Json.depthLimit s.read)

/-- Any value, which is not returned. -/
def anyReading : Reading Unit := .part (·.readValue Json.depthLimit) fun _ => ()

/-- What the body is read for. -/
def ResourceInvocation.reading : (i : ResourceInvocation) → Reading i.Result
  | .list k _ => itemsReading k.schema
  | .create k _ _ => itemReading k.schema
  | .get k _ => itemReading k.schema
  | .update k _ _ _ => itemReading k.schema
  | .delete _ _ => .outcome
  | .createLink _ => itemReading Resource.directorBackendSchema
  | .getLink _ => itemReading Resource.directorBackendSchema
  | .deleteLink _ => .outcome

/-- What the body is read for. -/
def Invocation.reading : (i : Invocation) → Reading i.Result
  | .resource i => i.reading
  | .listVersions _ => itemsReading Resource.versionSchema
  | .latestVersion _ =>
    .part (·.readList Json.depthLimit Resource.versionSchema.read) fun versions =>
      lastMax? Resource.Version.number (sortedOn Resource.Version.number versions)
  | .createVersion _ _ => itemReading Resource.versionSchema
  | .getVersion _ => itemReading Resource.versionSchema
  | .updateVersion _ _ => itemReading Resource.versionSchema
  | .actOnVersion _ _ => itemReading Resource.versionSchema
  | .validateVersion _ => itemReading Resource.validationSchema
  | .listServices => itemsReading Resource.serviceSchema
  | .createService _ _ => itemReading Resource.serviceSchema
  | .getService _ => itemReading Resource.serviceSchema
  | .getServiceDetails _ => itemReading Resource.serviceDetailSchema
  | .updateService _ _ _ => itemReading Resource.serviceSchema
  | .deleteService _ => .outcome
  | .searchService _ => itemReading Resource.serviceSchema
  | .listTokens => itemsReading Resource.tokenSchema
  | .listCustomerTokens _ => itemsReading Resource.tokenSchema
  | .getOwnToken => itemReading Resource.tokenSchema
  | .createToken _ => itemReading Resource.tokenSchema
  | .deleteToken _ => anyReading
  | .deleteOwnToken => anyReading
  | .listCustomerUsers _ => itemsReading Resource.userSchema
  | .getCurrentUser => itemReading Resource.userSchema
  | .getUser _ => itemReading Resource.userSchema
  | .createUser _ _ _ => itemReading Resource.userSchema
  | .updateUser _ _ _ => itemReading Resource.userSchema
  | .deleteUser _ => .outcome
  | .resetPassword _ => .outcome

/-- The operation, if there is one, reads bodies as the reading says. -/
def Reading.IsMetBy {α : Type} (rd : Reading α) (p : Prepared α) : Prop :=
  ∀ o, p = .ok o → rd.Reads o.read

theorem Reading.isMetBy_checked {α : Type} {rd : Reading α} {o : Operation α}
    (h : rd.Reads o.read) (check : Except Missing Unit) : rd.IsMetBy (checked check o) := by
  intro o' ho
  cases check with
  | error m => cases ho
  | ok _ =>
    cases ho
    exact h

theorem Operation.read_plain {α : Type} (method : Method) (path : String)
    (read : String → Except Failure α) : (plain method path read).read = read := rfl

theorem Operation.read_withForm {α : Type} (method : Method) (path : String)
    (form : List Web.Form.Pair) (read : String → Except Failure α) :
    (withForm method path form read).read = read := rfl

theorem Operation.read_map {α β : Type} (f : α → β) (o : Operation α) :
    (o.map f).read = fun body => (o.read body).map f := rfl

section Schemas

variable {κ : Type} [Record.FieldKind κ] (s : Record.Schema κ) (check : Except Missing Unit)

theorem isMetBy_item {o : Operation s.Value} (h : o.read = readItem s) :
    (itemReading s).IsMetBy (checked check o) := by
  apply Reading.isMetBy_checked
  rw [h]
  exact reads_readBody _

theorem isMetBy_items {β : Type} [LE β] [DecidableLE β] (key : s.Value → β) (path : String) :
    (itemsReading s).IsMetBy
      (checked check ((Operation.plain .get path (readItems s)).map (sortedOn key))) := by
  apply Reading.isMetBy_checked
  rw [Operation.read_map, Operation.read_plain, readItems]
  exact reads_list (sortedOn_perm key) _

/-- What is noted before an operation changes nothing in what it reads. -/
theorem isMetBy_item_remark {o : Operation s.Value} (h : o.read = readItem s)
    (remark? : Option String) :
    (itemReading s).IsMetBy (checked check { o with remark? := remark? }) :=
  isMetBy_item s check (o := { o with remark? := remark? }) h

end Schemas

theorem isMetBy_status {o : Operation Unit} (h : o.read = readStatus)
    (check : Except Missing Unit) : Reading.outcome.IsMetBy (checked check o) := by
  apply Reading.isMetBy_checked
  rw [h]
  exact reads_readStatus

theorem isMetBy_any {o : Operation Unit} (h : o.read = readNothing)
    (check : Except Missing Unit) : anyReading.IsMetBy (checked check o) := by
  apply Reading.isMetBy_checked
  rw [h]
  exact reads_part _ _

/-- A part of a list is a part of the list in order. -/
theorem isMetBy_part {α β : Type} {read : Outline → Except ReadError (List α)}
    {arrange : List α → List α} (pick : List α → β) (check : Except Missing Unit) (path : String) :
    (Reading.part read fun items => pick (arrange items)).IsMetBy
      ((checked check ((Operation.plain .get path (readBody read)).map arrange)).map
        (Operation.map pick)) := by
  have hchecked (o : Operation (List α)) :
      (checked check o).map (Operation.map pick) = checked check (o.map pick) := by
    cases check <;> rfl
  rw [hchecked]
  apply Reading.isMetBy_checked
  intro body
  rw [Operation.read_map, Operation.read_map, Operation.read_plain, Reading.Accepts]
  dsimp only
  rw [readBody]
  cases Json.readText read (bodyOrNull body) <;> rfl

theorem ResourceInvocation.isMetBy_reading (i : ResourceInvocation) :
    i.reading.IsMetBy i.prepared := by
  cases i with
  | list k r => exact isMetBy_items k.schema r.check VersionedKind.name (r.path k)
  | create k r changes => exact isMetBy_item k.schema r.check (Operation.read_withForm ..)
  | get k r => exact isMetBy_item k.schema r.check (Operation.read_plain ..)
  | update k r newName? changes =>
    exact isMetBy_item k.schema r.check (Operation.read_withForm ..)
  | delete k r => exact isMetBy_status (Operation.read_plain ..) r.check
  | createLink r =>
    exact isMetBy_item Resource.directorBackendSchema r.check (Operation.read_plain ..)
  | getLink r => exact isMetBy_item Resource.directorBackendSchema r.check (Operation.read_plain ..)
  | deleteLink r => exact isMetBy_status (Operation.read_plain ..) r.check

/-- Every operation reads bodies as its reading says. -/
theorem Invocation.isMetBy_reading (i : Invocation) : i.reading.IsMetBy i.prepared := by
  cases i with
  | resource i => exact i.isMetBy_reading
  | listVersions service =>
    exact isMetBy_items Resource.versionSchema (requireService service) Resource.Version.number
      (versionsPath service)
  | latestVersion service =>
    exact isMetBy_part (lastMax? Resource.Version.number) (requireService service)
      (versionsPath service)
  | createVersion service comment? =>
    exact isMetBy_item Resource.versionSchema _ (Operation.read_withForm ..)
  | getVersion r => exact isMetBy_item Resource.versionSchema r.check (Operation.read_plain ..)
  | updateVersion r comment? =>
    exact isMetBy_item Resource.versionSchema r.check (Operation.read_withForm ..)
  | actOnVersion r action =>
    exact isMetBy_item_remark Resource.versionSchema r.check (Operation.read_plain ..) _
  | validateVersion r =>
    exact isMetBy_item Resource.validationSchema r.check (Operation.read_plain ..)
  | listServices =>
    exact isMetBy_items Resource.serviceSchema (.ok ()) Resource.Service.name "/service"
  | createService name comment? =>
    exact isMetBy_item Resource.serviceSchema _ (Operation.read_withForm ..)
  | getService id => exact isMetBy_item Resource.serviceSchema _ (Operation.read_plain ..)
  | getServiceDetails id =>
    exact isMetBy_item Resource.serviceDetailSchema _ (Operation.read_plain ..)
  | updateService id name? comment? =>
    exact isMetBy_item Resource.serviceSchema _ (Operation.read_withForm ..)
  | deleteService id => exact isMetBy_status (Operation.read_plain ..) _
  | searchService name => exact isMetBy_item Resource.serviceSchema _ (Operation.read_plain ..)
  | listTokens =>
    exact isMetBy_items Resource.tokenSchema (.ok ()) Resource.Token.name "/tokens"
  | listCustomerTokens customer =>
    exact isMetBy_items Resource.tokenSchema _ Resource.Token.name (customerPath customer "tokens")
  | getOwnToken => exact isMetBy_item Resource.tokenSchema (.ok ()) (Operation.read_plain ..)
  | createToken t => exact isMetBy_item Resource.tokenSchema (.ok ()) (Operation.read_withForm ..)
  | deleteToken id => exact isMetBy_any (Operation.read_plain ..) _
  | deleteOwnToken => exact isMetBy_any (Operation.read_plain ..) (.ok ())
  | listCustomerUsers customer =>
    exact isMetBy_items Resource.userSchema _ Resource.User.displayName
      (customerPath customer "users")
  | getCurrentUser => exact isMetBy_item Resource.userSchema (.ok ()) (Operation.read_plain ..)
  | getUser id => exact isMetBy_item Resource.userSchema _ (Operation.read_plain ..)
  | createUser login name? role? =>
    exact isMetBy_item Resource.userSchema _ (Operation.read_withForm ..)
  | updateUser id name? role? =>
    exact isMetBy_item Resource.userSchema _ (Operation.read_withForm ..)
  | deleteUser id => exact isMetBy_status (Operation.read_plain ..) _
  | resetPassword login => exact isMetBy_status (Operation.read_plain ..) _

/-! ## Refusals -/

/-- The message and the detail of an answer that refuses a request. -/
structure Refuses (status : Status) (body message : String) (detail? : Option String) : Prop where
  message_ne : message ≠ ""
  detail_ne : detail? ≠ some ""
  /-- The message is the one in the body, if the whole body can be read and has one. -/
  told : ∀ row text, refusalSchema.readText body = .ok row →
    (refusalTexts row).1 = some text → text ≠ "" → message = text
  /-- Otherwise it is the phrase for the status. -/
  untold : (∀ row text, refusalSchema.readText body = .ok row →
    (refusalTexts row).1 = some text → text = "") → message = status.reason?.getD "Unknown"
  /-- The detail is the one in the body. -/
  detail : ∀ text, detail? = some text ↔
    text ≠ "" ∧ ∃ row, refusalSchema.readText body = .ok row ∧ (refusalTexts row).2 = some text

theorem reason_ne_empty (status : Status) : status.reason?.getD "Unknown" ≠ "" := by
  rw [Status.reason?]
  split <;> decide

theorem filter_eq_some_iff {text? : Option String} {text : String} :
    text?.filter (!·.isEmpty) = some text ↔ text ≠ "" ∧ text? = some text := by
  rw [Option.filter_eq_some_iff, and_comm, Bool.not_eq_true', ← Bool.not_eq_true,
    String.isEmpty_iff]

/-- What an answer without success comes to. -/
theorem exists_ofAnswer_eq (status : Status) (body : String) :
    ∃ message detail?, Failure.ofAnswer status body = .http status message detail? ∧
      Refuses status body message detail? := by
  refine ⟨_, _, rfl, ?_⟩
  cases hread : refusalSchema.readText body with
  | error e =>
    have hnone {row : refusalSchema.Value} (hrow : refusalSchema.readText body = .ok row) :
        False := by
      rw [hread] at hrow
      cases hrow
    refine ⟨reason_ne_empty status, nofun, fun row _ hrow => (hnone hrow).elim, fun _ => rfl,
      fun text => ⟨nofun, ?_⟩⟩
    rintro ⟨-, row, hrow, -⟩
    exact (hnone hrow).elim
  | ok row =>
    have hrow {row' : refusalSchema.Value} (h : refusalSchema.readText body = .ok row') :
        row' = row := by
      rw [hread] at h
      exact (Except.ok.inj h).symm
    dsimp only
    refine ⟨?_, ?_, ?_, ?_, ?_⟩
    · cases hmessage : (refusalTexts row).1.filter (!·.isEmpty) with
      | none => exact reason_ne_empty status
      | some text => exact (filter_eq_some_iff.mp hmessage).1
    · intro hempty
      exact (filter_eq_some_iff.mp hempty).1 rfl
    · intro row' text h htext hne
      obtain rfl := hrow h
      rw [filter_eq_some_iff.mpr ⟨hne, htext⟩, Option.getD_some]
    · intro hempty
      cases hmessage : (refusalTexts row).1.filter (!·.isEmpty) with
      | none => rfl
      | some text =>
        obtain ⟨hne, htext⟩ := filter_eq_some_iff.mp hmessage
        exact absurd (hempty row text hread htext) hne
    · intro text
      rw [filter_eq_some_iff]
      constructor
      · rintro ⟨hne, htext⟩
        exact ⟨hne, row, hread, htext⟩
      · rintro ⟨hne, row', h, htext⟩
        obtain rfl := hrow h
        exact ⟨hne, htext⟩

/-! ## Classification -/

/-- The result is what the answer comes to under a reading. -/
def Reading.Classifies {α : Type} (rd : Reading α) : Answer → Except Failure α → Prop
  | .dropped, result => result = .error .transport
  | .reply status bytes, result =>
    if 200 ≤ status.code ∧ status.code ≤ 299 then rd.Accepts (bodyText status bytes) result
    else
      ∃ message detail?, result = .error (.http status message detail?) ∧
        Refuses status (bodyText status bytes) message detail?

theorem Reading.Reads.classifies {α : Type} {rd : Reading α} {read : String → Except Failure α}
    (h : rd.Reads read) (a : Answer) : rd.Classifies a (a.judged.bind read) := by
  cases a with
  | dropped => rfl
  | reply status bytes =>
    have hsuccess : status.isSuccess = true ↔ 200 ≤ status.code ∧ status.code ≤ 299 := by
      rw [Status.isSuccess, Bool.and_eq_true, decide_eq_true_eq, decide_eq_true_eq, Nat.lt_succ_iff]
    rw [Reading.Classifies, Answer.judged]
    by_cases hs : status.isSuccess = true
    · rw [if_pos (hsuccess.mp hs), if_pos hs]
      exact h _
    · rw [if_neg (mt hsuccess.mpr hs), if_neg hs]
      obtain ⟨message, detail?, hfailure, hrefuses⟩ :=
        exists_ofAnswer_eq status (bodyText status bytes)
      refine ⟨message, detail?, ?_, hrefuses⟩
      rw [hfailure]
      rfl

/-- Every valid invocation, on any client and in any session, classifies the answer to its request
by its reading. If its address cannot be asked there is no answer, as when the connection drops. -/
theorem Client.run_classifies (c : Client) (s : Session) (i : Invocation)
    (hvalid : i.demand.firstMissing? = none) :
    ∃ o, i.prepared = .ok o ∧
      match c.request? o.method o.path o.form? with
      | some r => i.reading.Classifies (s.send r).1 ((c.run i.prepared).run.run s).1
      | none => ((c.run i.prepared).run.run s).1 = .error .transport := by
  obtain ⟨o, ho⟩ := Invocation.exists_prepared_eq_ok_iff.mpr hvalid
  refine ⟨o, ho, ?_⟩
  rw [ho]
  cases hr : c.request? o.method o.path o.form? with
  | none =>
    obtain ⟨t, hrun, -⟩ := c.run_perform_of_none (s := s) o hr
    exact congrArg Prod.fst hrun
  | some r =>
    obtain ⟨t, hrun, -⟩ := c.run_perform_of_some (s := s) o hr
    have hresult : ((c.run (.ok o)).run.run s).1 = (s.send r).1.judged.bind o.read :=
      congrArg Prod.fst hrun
    dsimp only
    rw [hresult]
    exact (i.isMetBy_reading o ho).classifies (s.send r).1

/-- What is said of a service that is not found. -/
def notFound : Json := .object [("msg", .text "Record not found"), ("detail", .text "No service abc")]

/-- The case of a service that is not found. -/
theorem Client.run_classifies_not_found :
    ∃ c, Client.of? "key" "http://[::1]:8080" = .ok c ∧
      ((c.run (getService "abc")).run.run (.start (.scripted
          [⟨none, .reply ⟨404⟩ (Text.Utf8.encode notFound.compact.toList)⟩]))).1 =
        .error (.http ⟨404⟩ "Record not found" (some "No service abc")) := by
  have hc := Client.of?_eq_ok "key" .console rfl isServer_loopback.read rfl
  refine ⟨_, hc, ?_⟩
  obtain ⟨o, ho, hclass⟩ := Client.run_classifies _
    (.start (.scripted [⟨none, .reply ⟨404⟩ (Text.Utf8.encode notFound.compact.toList)⟩]))
    (.getService "abc") rfl
  obtain ⟨hmethod, hpath, -⟩ := Invocation.meets_of_prepared ho
  rw [hpath, Client.request?_of_isServer hc isServer_loopback
    (Invocation.isRooted_address _)] at hclass
  obtain ⟨message, detail?, hresult, hrefuses⟩ := hclass
  rw [bodyText_encode rfl] at hrefuses
  have hexact : notFound.IsExact :=
    .object (by simpa using ⟨.text "Record not found", .text "No service abc"⟩)
  have hread : refusalSchema.readText notFound.compact =
      .ok (.cons (some "Record not found") (.cons (some "No service abc") .nil)) :=
    Json.readText_eq_ok_iff.mpr ⟨_, Json.ofText_compact hexact, rfl⟩
  obtain rfl := hrefuses.told _ "Record not found" hread rfl (by decide)
  obtain rfl := (hrefuses.detail "No service abc").mpr ⟨by decide, _, hread, rfl⟩
  exact hresult

end EdgeConsole.Api
