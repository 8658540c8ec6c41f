import EdgeConsole.Proofs.Api.Classification
import EdgeConsole.Proofs.Json.Reading
import EdgeConsole.Proofs.Json.Scanned
import EdgeConsole.Proofs.Record.Object

/-!
# Deeds and what is said of them

A deed is an operation that is done for its effect and returns nothing: a deletion, a revocation or
the reset of a password. The object in the body of an answer with success says what became of it.

Most deeds are answered by a status. It is believed only from an object that tells it plainly
(`Tells`): the status is a text, or missing and then empty, the message is a text, null or missing,
and neither stands there twice. The deed was done if the status is `ok`, and was not done if it is
any other (`IsTold`); an object that does not tell is undecodable. The revocation of a token expects
no body, and if there is one all the same, nothing that it tells is looked at (`IsRead`): an answer
with success that says that the token was not revoked counts as a revocation.

`Client.run_deed` says so for every deed and every such answer, and `Client.run_deed_of_unbelieved`
shows where this falls short of what the answers tell.
-/

namespace EdgeConsole.Api

open Json (Key Outline)
open Outcome (bind_eq_ok_iff)
open Record (ReadsAs valuesOf)
open Resource (Scalar VersionedKind)
open Web (Status)

/-! ## Deeds -/

/-- An operation that returns nothing, with its arguments. -/
inductive Deed
  | deleteItem (k : VersionedKind) (r : NameRef)
  | deleteLink (r : LinkRef)
  | deleteService (id : String)
  | deleteUser (id : String)
  | deleteToken (id : String)
  | deleteOwnToken
  | resetPassword (login : String)

namespace Deed

/-- The operation. -/
def prepared : Deed → Prepared Unit
  | deleteItem k r => Api.deleteItem k r
  | deleteLink r => Api.deleteLink r
  | deleteService id => Api.deleteService id
  | deleteUser id => Api.deleteUser id
  | deleteToken id => Api.deleteToken id
  | deleteOwnToken => Api.deleteOwnToken
  | resetPassword login => Api.resetPassword login

/-- The deed among all operations. -/
def invocation : Deed → Invocation
  | deleteItem k r => .resource (.delete k r)
  | deleteLink r => .resource (.deleteLink r)
  | deleteService id => .deleteService id
  | deleteUser id => .deleteUser id
  | deleteToken id => .deleteToken id
  | deleteOwnToken => .deleteOwnToken
  | resetPassword login => .resetPassword login

/-- The deed revokes a token. -/
def isRevocation : Deed → Bool
  | deleteToken _ => true
  | deleteOwnToken => true
  | deleteItem _ _ => false
  | deleteLink _ => false
  | deleteService _ => false
  | deleteUser _ => false
  | resetPassword _ => false

/-- A deed that lacks nothing is an operation, and reads answers as its sort does. -/
theorem exists_prepared {d : Deed} (h : d.invocation.demand.firstMissing? = none) :
    ∃ o, d.prepared = .ok o ∧
      (if d.isRevocation then anyReading else .outcome : Reading Unit).Reads o.read := by
  have hexists := Invocation.exists_prepared_eq_ok_iff.mpr h
  have hreads := d.invocation.isMetBy_reading
  cases d with
  | _ =>
    obtain ⟨o, ho⟩ := hexists
    exact ⟨o, ho, hreads o ho⟩

end Deed

/-! ## Bodies -/

/-- The body is the text of an object with these members. -/
def IsObject (body : String) (ms : List (Key × Outline)) : Prop :=
  Json.Document.ofText body = ⟨.object ms none, true⟩

/-- The members tell the status of an action plainly, and a message if there is one. -/
structure Tells (ms : List (Key × Outline)) (status : String) (message? : Option String) : Prop where
  named : ∀ m ∈ ms, ∃ name, m.1 = .text name
  status : valuesOf "status" ms = [] ∧ status = "" ∨
    valuesOf "status" ms = [.atom (.text status)]
  message : (valuesOf "msg" ms = [] ∨ valuesOf "msg" ms = [.atom .null]) ∧ message? = none ∨
    ∃ text, valuesOf "msg" ms = [.atom (.text text)] ∧ message? = some text

/-- The result of a deed is what the members tell of it. -/
structure IsTold (ms : List (Key × Outline)) (result : Except Failure Unit) : Prop where
  done_iff : result = .ok () ↔ ∃ message?, Tells ms "ok" message?
  undone_iff : ∀ text, result = .error (.notOk text) ↔
    ∃ status message?, Tells ms status message? ∧ status ≠ "ok" ∧ message?.getD status = text
  /-- What is left are members that do not tell. -/
  undecodable : (∀ status message?, ¬Tells ms status message?) →
    ∃ e, result = .error (.undecodable e)

/-- The result of a deed depends on nothing but whether the object can be read. -/
def IsRead (ms : List (Key × Outline)) (result : Except Failure Unit) : Prop :=
  match (Outline.object ms none).readValue Json.depthLimit with
  | .ok _ => result = .ok ()
  | .error e => result = .error (.undecodable e)

/-- The result of a deed that is answered by an object with success. -/
def Deed.Comes (d : Deed) (ms : List (Key × Outline)) (result : Except Failure Unit) : Prop :=
  if d.isRevocation then IsRead ms result else IsTold ms result

theorem IsObject.not_blank {body : String} {ms : List (Key × Outline)} (h : IsObject body ms) :
    Text.isBlankText body = false := by
  have hdocument : Json.Document.ofText body = ⟨.object ms none, true⟩ := h
  exact Json.Document.isBlankText_of_bracket? (congrArg (·.value.bracket?) hdocument) (by decide)

/-- Each member of an object can be skipped. -/
theorem IsObject.skip_of_mem {body : String} {ms : List (Key × Outline)} (h : IsObject body ms) :
    ∀ m ∈ ms, m.2.skip = .ok () := by
  have hskip := Json.Document.skip_of_ofText h
  rw [Outline.skip, bind_eq_ok_iff] at hskip
  obtain ⟨_, hms, -⟩ := hskip
  exact Json.skip_of_mem hms

/-- An object is read as a record exactly if its members say that record. -/
theorem IsObject.readText_eq_ok_iff {body : String} {ms : List (Key × Outline)}
    (h : IsObject body ms) {κ : Type} [Record.FieldKind κ] {s : Record.Schema κ}
    (hs : Record.Distinct s.fields) {row : s.Value} :
    s.readText body = .ok row ↔ ReadsAs 126 ms row := by
  rw [Record.Schema.readText, Json.readText_eq_ok_iff, ← Record.Schema.read_object_eq_ok_iff hs]
  constructor
  · rintro ⟨o, ho, hread⟩
    rw [h] at ho
    obtain ⟨rfl, -⟩ := Json.Document.mk.inj ho
    exact hread
  · intro hread
    exact ⟨_, h, hread⟩

theorem readText_eq_ok_iff {o : Outline} {text : String} :
    o.readText = .ok text ↔ o = .atom (.text text) := by
  unfold Outline.readText
  split
  · simp
  · next hother =>
    refine iff_of_false (Json.mismatch_ne_ok _ _ _) ?_
    intro ho
    exact hother text ho

theorem fieldReads_status_iff {status : String} {os : List Outline} :
    Record.FieldReads 126 (⟨"status", .plainText, false⟩ : Record.FieldSpec Scalar) status os ↔
      os = [] ∧ status = "" ∨ os = [.atom (.text status)] := by
  match os with
  | [] =>
    have hdefault : Record.FieldReads 126 (⟨"status", .plainText, false⟩ : Record.FieldSpec Scalar)
        status [] ↔ some "" = some status := Iff.rfl
    rw [hdefault]
    simp [eq_comm]
  | [o] =>
    have hread : Record.FieldReads 126 (⟨"status", .plainText, false⟩ : Record.FieldSpec Scalar)
        status [o] ↔ o.readText = .ok status := Iff.rfl
    rw [hread, readText_eq_ok_iff]
    simp
  | o :: o' :: os => simp [Record.FieldReads]

/-- A text that may be absent is that of its only member, if there is one and it is not null. -/
theorem fieldReads_text_iff (name : String) (writable : Bool) {x? : Option String}
    {os : List Outline} :
    Record.FieldReads 126 (⟨name, .optional .text, writable⟩ : Record.FieldSpec Scalar) x? os ↔
      (os = [] ∨ os = [.atom .null]) ∧ x? = none ∨
        ∃ text, os = [.atom (.text text)] ∧ x? = some text := by
  match os with
  | [] =>
    have hdefault : Record.FieldReads 126
        (⟨name, .optional .text, writable⟩ : Record.FieldSpec Scalar) x? [] ↔
          some none = some x? := Iff.rfl
    rw [hdefault]
    simp [eq_comm]
  | [o] =>
    have hread : Record.FieldReads 126
        (⟨name, .optional .text, writable⟩ : Record.FieldSpec Scalar) x? [o] ↔
          o.readOption (·.readText) = .ok x? := Iff.rfl
    rw [hread, Json.readOption_eq_ok_iff]
    simp only [readText_eq_ok_iff]
    constructor
    · rintro (⟨rfl, rfl⟩ | ⟨-, text, rfl, rfl⟩)
      · exact .inl ⟨.inr rfl, rfl⟩
      · exact .inr ⟨text, rfl, rfl⟩
    · rintro (⟨hnone | hnull, rfl⟩ | ⟨text, htext, rfl⟩)
      · cases hnone
      · exact .inl ⟨List.singleton_inj.mp hnull, rfl⟩
      · obtain rfl := List.singleton_inj.mp htext
        exact .inr ⟨nofun, text, rfl, rfl⟩
  | o :: o' :: os => simp [Record.FieldReads]

/-- The record of an outcome is read exactly from the objects that tell it. -/
theorem readText_outcome_eq_ok_iff {body : String} {ms : List (Key × Outline)}
    (h : IsObject body ms) {row : outcomeSchema.Value} :
    outcomeSchema.readText body = .ok row ↔ Tells ms (outcomeTexts row).1 (outcomeTexts row).2 := by
  rw [h.readText_eq_ok_iff (by decide)]
  match row with
  | .cons status (.cons message? .nil) =>
    constructor
    · rintro ⟨hnamed, -, hfields⟩
      exact ⟨hnamed, fieldReads_status_iff.mp hfields.1,
        (fieldReads_text_iff "msg" false).mp hfields.2.1⟩
    · rintro ⟨hnamed, hstatus, hmessage⟩
      exact ⟨hnamed, fun m hm _ => h.skip_of_mem m hm, fieldReads_status_iff.mpr hstatus,
        (fieldReads_text_iff "msg" false).mpr hmessage, trivial⟩

/-! ## Results -/

/-- What an object tells, it tells of one status and one message. -/
theorem Tells.eq {ms : List (Key × Outline)} {status status' : String}
    {message? message?' : Option String} (h : Tells ms status message?)
    (h' : Tells ms status' message?') : status = status' ∧ message? = message?' := by
  constructor
  · rcases h.status with ⟨hnone, rfl⟩ | hsome <;> rcases h'.status with ⟨hnone', rfl⟩ | hsome' <;>
      simp_all
  · rcases h.message with ⟨hnone, rfl⟩ | ⟨text, hsome, rfl⟩ <;>
      rcases h'.message with ⟨hnone', rfl⟩ | ⟨text', hsome', rfl⟩ <;> simp_all

/-- An object that does not tell is undecodable. -/
theorem IsTold.of_not_tells {ms : List (Key × Outline)}
    (h : ∀ status message?, ¬Tells ms status message?) (e : Json.ReadError) :
    IsTold ms (.error (.undecodable e)) where
  done_iff := by
    refine iff_of_false nofun ?_
    rintro ⟨message?, htells⟩
    exact h _ _ htells
  undone_iff text := by
    refine iff_of_false nofun ?_
    rintro ⟨status, message?, htells, -⟩
    exact h _ _ htells
  undecodable _ := ⟨e, rfl⟩

/-- The action was carried out if the status that an object tells is `ok`. -/
theorem IsTold.of_tells {ms : List (Key × Outline)} {status : String} {message? : Option String}
    (h : Tells ms status message?) :
    IsTold ms (if status = "ok" then .ok () else .error (.notOk (message?.getD status))) where
  done_iff := by
    constructor
    · intro hdone
      by_cases hok : status = "ok"
      · exact ⟨message?, hok ▸ h⟩
      · rw [if_neg hok] at hdone
        cases hdone
    · rintro ⟨message?', hok⟩
      rw [if_pos (h.eq hok).1]
  undone_iff text := by
    constructor
    · intro hundone
      by_cases hok : status = "ok"
      · rw [if_pos hok] at hundone
        cases hundone
      · rw [if_neg hok] at hundone
        cases hundone
        exact ⟨status, message?, h, hok, rfl⟩
    · rintro ⟨status', message?', htells, hok, rfl⟩
      obtain ⟨rfl, rfl⟩ := h.eq htells
      rw [if_neg hok]
  undecodable hnone := absurd h (hnone status message?)

/-- The reading of an outcome comes to what the object tells. -/
theorem IsTold.of_accepts {body : String} {ms : List (Key × Outline)} (h : IsObject body ms)
    {result : Except Failure Unit} (haccepts : Reading.outcome.Accepts body result) :
    IsTold ms result := by
  rw [Reading.Accepts, if_neg (by simp [h.not_blank])] at haccepts
  cases hread : outcomeSchema.readText body with
  | error e =>
    rw [hread] at haccepts
    obtain rfl := haccepts
    refine .of_not_tells ?_ e
    intro status message? htells
    let row : outcomeSchema.Value := .cons status (.cons message? .nil)
    have hrow : outcomeSchema.readText body = .ok row := (readText_outcome_eq_ok_iff h).mpr htells
    rw [hread] at hrow
    cases hrow
  | ok row =>
    rw [hread] at haccepts
    have htold := IsTold.of_tells ((readText_outcome_eq_ok_iff h).mp hread)
    dsimp only at haccepts
    split at haccepts
    · next hok =>
      rw [if_pos hok] at htold
      rwa [haccepts]
    · next hok =>
      rw [if_neg hok] at htold
      rwa [haccepts]

/-- The reading of any value comes to whether the object can be read. -/
theorem isRead_of_accepts {body : String} {ms : List (Key × Outline)} (h : IsObject body ms)
    {result : Except Failure Unit} (haccepts : anyReading.Accepts body result) :
    IsRead ms result := by
  have hdocument : Json.Document.ofText body = ⟨.object ms none, true⟩ := h
  have hread : Json.readText (·.readValue Json.depthLimit) body =
      (Outline.object ms none).readValue Json.depthLimit := by
    rw [Json.readText, Json.Document.read, hdocument]
    cases (Outline.object ms none).readValue Json.depthLimit <;> rfl
  have hbody : bodyOrNull body = body := by simp [bodyOrNull, h.not_blank]
  rw [anyReading, Reading.Accepts, hbody, hread] at haccepts
  rw [IsRead]
  cases hvalue : (Outline.object ms none).readValue Json.depthLimit with
  | ok v => simpa [hvalue] using haccepts
  | error e => simpa [hvalue] using haccepts

/-- A deed that is answered with success has the result that its operation reads in the body. -/
theorem Client.fst_run_of_reply (c : Client) {s : Session} {o : Operation α} {r : Request}
    {status : Status} {bytes : List UInt8} (hr : c.request? o.method o.path o.form? = some r)
    (hanswer : (s.send r).1 = .reply status bytes) (hsuccess : status.isSuccess = true) :
    ((c.run (.ok o)).run.run s).1 = o.read (bodyText status bytes) := by
  obtain ⟨t, hrun, -⟩ := c.run_perform_of_some (s := s) o hr
  rw [run, hrun, hanswer, Answer.judged, if_pos hsuccess]
  rfl

/-- A deed that lacks nothing is asked of the server, and its result is what the answer tells. -/
theorem Client.run_deed (c : Client) (s : Session) (d : Deed)
    (hvalid : d.invocation.demand.firstMissing? = none) :
    ∃ o, d.prepared = .ok o ∧ ∀ r status bytes ms,
      c.request? o.method o.path o.form? = some r →
      (s.send r).1 = .reply status bytes → status.isSuccess = true →
      IsObject (bodyText status bytes) ms →
      d.Comes ms ((c.run d.prepared).run.run s).1 := by
  obtain ⟨o, ho, hreads⟩ := d.exists_prepared hvalid
  refine ⟨o, ho, ?_⟩
  intro r status bytes ms hr hanswer hsuccess hobject
  have haccepts := hreads (bodyText status bytes)
  rw [ho, c.fst_run_of_reply hr hanswer hsuccess, Deed.Comes]
  by_cases hrevocation : d.isRevocation = true
  · rw [if_pos hrevocation] at haccepts ⊢
    exact isRead_of_accepts hobject haccepts
  · rw [if_neg hrevocation] at haccepts ⊢
    exact .of_accepts hobject haccepts

theorem isObject_saying {ms : List (String × Json)} (h : (Json.object ms).IsExact) :
    IsObject (bodyText ⟨200⟩ (Text.Utf8.encode (Json.object ms).compact.toList))
      (Outline.ofMembers ms) := by
  rw [bodyText_saying, IsObject, Json.ofText_compact h, Outline.ofJson]

theorem exists_request_loopback {c : Client} (hc : Client.of? "key" "http://[::1]:8080" = .ok c)
    {i : Invocation} {o : Operation i.Result} (ho : i.prepared = .ok o) :
    ∃ r, c.request? o.method o.path o.form? = some r := by
  have hmeets := Invocation.meets_of_prepared ho
  rw [hmeets.path, hmeets.method]
  exact ⟨_, Client.request?_of_isServer hc isServer_loopback i.isRooted_address _ _⟩

section Loopback

variable {c : Client} {ms : List (String × Json)} (hc : Client.of? "key" "http://[::1]:8080" = .ok c)
  (hexact : (Json.object ms).IsExact)

include hc hexact

theorem isTold_deleteService :
    IsTold (Outline.ofMembers ms)
      ((c.run (deleteService "abc")).run.run (.expecting (.saying (.object ms)))).1 := by
  obtain ⟨o, ho, hreads⟩ := Deed.exists_prepared (d := .deleteService "abc") rfl
  rw [if_neg (by decide)] at hreads
  obtain ⟨r, hr⟩ : ∃ r, c.request? o.method o.path o.form? = some r :=
    exists_request_loopback hc (i := .deleteService "abc") ho
  have hprepared : deleteService "abc" = .ok o := ho
  have hrun := c.fst_run_of_reply (s := .expecting (.saying (.object ms))) hr rfl rfl
  have hobject := isObject_saying hexact
  generalize bodyText ⟨200⟩ (Text.Utf8.encode (Json.object ms).compact.toList) = body
    at hrun hobject
  rw [hprepared, hrun]
  exact .of_accepts hobject (hreads body)

theorem run_deleteToken_of_readable {v : Json}
    (hvalue : (Outline.object (Outline.ofMembers ms) none).readValue Json.depthLimit = .ok v) :
    ((c.run (deleteToken "t1")).run.run (.expecting (.saying (.object ms)))).1 = .ok () := by
  obtain ⟨o, ho, hreads⟩ := Deed.exists_prepared (d := .deleteToken "t1") rfl
  rw [if_pos (by decide)] at hreads
  obtain ⟨r, hr⟩ : ∃ r, c.request? o.method o.path o.form? = some r :=
    exists_request_loopback hc (i := .deleteToken "t1") ho
  have hprepared : deleteToken "t1" = .ok o := ho
  have hrun := c.fst_run_of_reply (s := .expecting (.saying (.object ms))) hr rfl rfl
  have hobject := isObject_saying hexact
  generalize bodyText ⟨200⟩ (Text.Utf8.encode (Json.object ms).compact.toList) = body
    at hrun hobject
  have hread := isRead_of_accepts hobject (hreads body)
  rw [IsRead, hvalue] at hread
  rwa [hprepared, hrun]

end Loopback

/-- The case of a service that was deleted, and of one that was not. -/
theorem Client.run_deed_deleteService :
    ∃ c, Client.of? "key" "http://[::1]:8080" = .ok c ∧
      ((c.run (deleteService "abc")).run.run
        (.expecting (.saying (.object [("status", .text "ok")])))).1 = .ok () ∧
      ((c.run (deleteService "abc")).run.run
        (.expecting (.saying (.object [("msg", .text "denied")])))).1 =
          .error (.notOk "denied") := by
  obtain ⟨c, hc⟩ := exists_client_loopback
  have htold {ms : List (String × Json)} (hexact : (Json.object ms).IsExact) :
      IsTold (Outline.ofMembers ms)
        ((c.run (deleteService "abc")).run.run (.expecting (.saying (.object ms)))).1 := by
    obtain ⟨o, ho, hdeed⟩ := c.run_deed (.expecting (.saying (.object ms))) (.deleteService "abc") rfl
    obtain ⟨r, hr⟩ := exists_request_loopback hc (i := .deleteService "abc") ho
    exact hdeed r _ _ _ hr rfl rfl (isObject_saying hexact)
  refine ⟨c, hc, (htold ?_).done_iff.mpr ⟨none, ?_⟩, ((htold ?_).undone_iff "denied").mpr ?_⟩
  · exact .object (by simpa using .text "ok")
  · exact ⟨by simp [Outline.ofMembers], .inr rfl, .inl ⟨.inl rfl, rfl⟩⟩
  · exact .object (by simpa using .text "denied")
  · exact ⟨"", some "denied",
      ⟨by simp [Outline.ofMembers], .inl ⟨rfl, rfl⟩, .inr ⟨"denied", rfl, rfl⟩⟩,
      by decide, rfl⟩

/-- An answer may be misreported, though it has a status: a token counts as revoked when the answer
says that it was not, and a service whose status is `ok` is not known to be deleted if the message is
no text. -/
theorem Client.run_deed_of_unbelieved :
    ∃ c, Client.of? "key" "http://[::1]:8080" = .ok c ∧
      ((c.run (deleteToken "t1")).run.run
        (.expecting (.saying (.object [("status", .text "error"), ("msg", .text "denied")])))).1 =
          .ok () ∧
      ∃ e, ((c.run (deleteService "abc")).run.run
        (.expecting (.saying (.object [("msg", .bool true), ("status", .text "ok")])))).1 =
          .error (.undecodable e) := by
  obtain ⟨c, hc⟩ := exists_client_loopback
  have hdenied : (Json.object [("status", .text "error"), ("msg", .text "denied")]).IsExact :=
    .object (by simpa using ⟨.text "error", .text "denied"⟩)
  refine ⟨c, hc, run_deleteToken_of_readable hc hdenied rfl, ?_⟩
  refine (isTold_deleteService hc (.object (by simpa using ⟨.bool true, .text "ok"⟩))).undecodable ?_
  intro status message? htells
  have hvalues : valuesOf "msg" (Outline.ofMembers [("msg", .bool true), ("status", .text "ok")]) =
      [.atom (.bool true)] := rfl
  have hmessage := htells.message
  rw [hvalues] at hmessage
  rcases hmessage with ⟨hnone | hnull, -⟩ | ⟨text, htext, -⟩
  · cases hnone
  · cases hnull
  · cases htext

end EdgeConsole.Api
