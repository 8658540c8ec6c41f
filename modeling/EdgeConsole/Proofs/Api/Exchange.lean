import EdgeConsole.Api.Operation
import EdgeConsole.Proofs.Text.Blank
import EdgeConsole.Proofs.Text.Utf8

/-!
# What an operation does to a session

An operation that is carried out leaves events in the log and, if its address can be asked at all,
one request with the server. Apart from the log the session afterwards is the session in which just
that request was sent, and the result is what the answer comes to (`Client.run_perform_of_some`).

A key is never in the way of that, because every byte of it may stand in a header
(`isHeaderValue_key`).
-/

namespace EdgeConsole.Api

open Access (ApiKey)

/-! ## The key of a client -/

/-- With a key, it is the endpoint that decides whether a client can be set up. -/
theorem Client.of?_cases (k : ApiKey) (e : String) (agent : Agent) :
    (∃ fault, of? k.text e agent = .error (.endpoint fault)) ∨
      of? k.text e agent = .error (.setup ("endpoint " ++ e ++ " cannot be a base URL")) ∨
      of? k.text e agent = .ok ⟨k, trimSlashes e, agent⟩ := by
  rw [of?, ApiKey.ofText?_text]
  dsimp only
  split
  · next fault _ => exact .inl ⟨fault, rfl⟩
  · split
    · exact .inr (.inr rfl)
    · exact .inr (.inl rfl)

/-- A client sends the key that it was set up with. -/
theorem Client.key_of_of? {k : ApiKey} {e : String} {agent : Agent} {c : Client}
    (h : Client.of? k.text e agent = .ok c) : c.key = k := by
  obtain ⟨fault, hc⟩ | hc | hc := of?_cases k e agent
  · rw [hc] at h
    cases h
  · rw [hc] at h
    cases h
  · rw [hc] at h
    obtain rfl := Except.ok.inj h
    rfl

/-- No key is malformed: what else may be wrong with a client is its endpoint. -/
theorem Client.of?_ne_malformed (k : ApiKey) (e : String) (agent : Agent) :
    Client.of? k.text e agent ≠ .error (.setup "API key is empty or malformed") := by
  intro h
  obtain ⟨fault, hc⟩ | hc | hc := of?_cases k e agent
  · rw [hc] at h
    cases h
  · rw [hc] at h
    have hreason := congrArg String.toList (Failure.setup.inj (Except.error.inj h))
    rw [String.toList_append, String.toList_append] at hreason
    exact absurd (congrArg List.head? hreason) (by simp)
  · rw [hc] at h
    cases h

/-! ## Keys in headers -/

/-- A tab and the bytes from the space to the tilde may stand in a header. -/
structure AllowsText (allows : UInt8 → Bool) : Prop where
  tab : allows 9 = true
  printed : ∀ b, 32 ≤ b → b ≤ 126 → allows b = true

theorem allowsText_isHeaderByte : AllowsText isHeaderByte where
  tab := rfl
  printed b hlow hhigh := by
    have hdelete : b ≠ 127 := by
      rintro rfl
      exact absurd hhigh (by decide)
    simp [isHeaderByte, hlow, hdelete]

/-- Every byte of a key may stand in a header: it is one of the bytes from the exclamation mark to
the tilde. -/
theorem isHeaderValue_key {allows : UInt8 → Bool} (h : AllowsText allows) (k : ApiKey) :
    isHeaderValue allows k.text = true := by
  have husable := k.usable
  rw [Access.isUsableKey, Bool.and_eq_true, List.all_eq_true] at husable
  rw [isHeaderValue, List.all_eq_true]
  intro b hb
  obtain ⟨c, hc, hmem⟩ := List.mem_flatMap.mp hb
  have hvisible := husable.2 c hc
  rw [Access.isVisible, Bool.and_eq_true, decide_eq_true_eq, decide_eq_true_eq] at hvisible
  rw [Text.Utf8.utf8EncodeChar_of_lt (by omega), List.mem_singleton] at hmem
  have hcode : b.toNat = c.toNat := by rw [hmem, Text.Utf8.toNat_ofNat_of_lt (by omega)]
  apply h.printed
  · show 32 ≤ b.toNat
    omega
  · show b.toNat ≤ 126
    omega

/-! ## Sessions up to their logs -/

/-- The sessions differ in nothing but the log. -/
structure Session.Agrees (s t : Session) : Prop where
  server : s.server = t.server
  requests : s.requests = t.requests

namespace Session

theorem Agrees.refl (s : Session) : s.Agrees s := ⟨rfl, rfl⟩

theorem Agrees.symm {s t : Session} (h : s.Agrees t) : t.Agrees s :=
  ⟨h.server.symm, h.requests.symm⟩

theorem Agrees.trans {s t u : Session} (h : s.Agrees t) (h' : t.Agrees u) : s.Agrees u :=
  ⟨h.server.trans h'.server, h.requests.trans h'.requests⟩

theorem agrees_note (level : Level) (message : String) (s : Session) :
    (s.note level message).Agrees s := ⟨rfl, rfl⟩

/-- The server answers by the request alone, and not by what was noted. -/
theorem Agrees.send {s t : Session} (h : s.Agrees t) (r : Request) :
    (s.send r).1 = (t.send r).1 ∧ (s.send r).2.Agrees (t.send r).2 := by
  rw [Session.send, Session.send, h.server]
  cases t.server with
  | unreachable => exact ⟨rfl, h⟩
  | scripted plan => exact ⟨rfl, rfl, congrArg (· ++ [r]) h.requests⟩

/-- A server with a plan takes the request, and the answer out of its plan. -/
theorem send_of_scripted {s : Session} {plan : List Planned} (h : s.server = .scripted plan)
    (r : Request) :
    s.send r = ((takeAnswer r.line plan).1,
      { s with server := .scripted (takeAnswer r.line plan).2, requests := s.requests ++ [r] }) := by
  rw [send, h]

end Session

/-- An answer in front that is meant for the line is taken. -/
theorem takeAnswer_cons_self (line : String) (a : Answer) (plan : List Planned) :
    takeAnswer line (⟨some line, a⟩ :: plan) = (a, plan) := by
  have hsuits : Planned.suits line ⟨some line, a⟩ = true := by simp [Planned.suits]
  rw [takeAnswer, List.find?_cons_of_pos hsuits, List.eraseP_cons_of_pos hsuits]

/-! ## Calls step by step -/

theorem Call.run_bind {α β : Type} (x : Call α) (f : α → Call β) (s : Session) :
    (x >>= f).run.run s =
      match x.run.run s with
      | (.ok a, t) => (f a).run.run t
      | (.error e, t) => (.error e, t) := by
  change (ExceptT.bindCont f (x.run.run s).1).run (x.run.run s).2 = _
  obtain ⟨result, t⟩ := x.run.run s
  cases result <;> rfl

theorem Call.run_note_bind {α : Type} (level : Level) (message : String) (x : Call α)
    (s : Session) :
    ((note level message : Call Unit) >>= fun _ => x).run.run s =
      x.run.run (s.note level message) := rfl

/-- What an answer comes to: the text of its body, or a failure. -/
def Answer.judged : Answer → Except Failure String
  | .dropped => .error .transport
  | .reply status bytes =>
    if status.isSuccess then .ok (bodyText status bytes)
    else .error (.ofAnswer status (bodyText status bytes))

theorem Answer.judged_ne_setup (a : Answer) (reason : String) :
    a.judged ≠ .error (.setup reason) := by
  cases a with
  | dropped => nofun
  | reply status bytes =>
    rw [judged]
    split
    · nofun
    · rw [Failure.ofAnswer]
      nofun

namespace Client

variable (c : Client) {α : Type} (s : Session)

theorem run_judge (method : Method) (path : String) (a : Answer) :
    ∃ t, (c.judge method path a).run.run s = (a.judged, t) ∧ t.Agrees s := by
  cases a with
  | dropped => exact ⟨s, rfl, .refl s⟩
  | reply status bytes =>
    by_cases h : status.isSuccess = true
    · rw [judge, Answer.judged, if_pos h, if_pos h]
      exact ⟨_, rfl, s.agrees_note _ _⟩
    · rw [judge, Answer.judged, if_neg h, if_neg h]
      exact ⟨_, rfl, s.agrees_note _ _⟩

variable (method : Method) (path : String) (form? : Option (List Web.Form.Pair))

/-- A client asks whatever it is told to, since its key fits into a header. -/
theorem exchangeWith_eq {allows : UInt8 → Bool} (h : AllowsText allows) :
    c.exchangeWith allows method path form? =
      (note .debug (method.text ++ " " ++ c.url path) : Call Unit) >>= fun _ =>
        c.ask method path form? := by
  rw [exchangeWith, if_pos (isHeaderValue_key h c.key)]

theorem exchange_eq :
    c.exchange method path form? =
      (note .debug (method.text ++ " " ++ c.url path) : Call Unit) >>= fun _ =>
        c.ask method path form? :=
  c.exchangeWith_eq method path form? allowsText_isHeaderByte

/-- Nothing is sent to an address that cannot be asked. -/
theorem run_exchange_of_none (h : c.request? method path form? = none) :
    ∃ t, (c.exchange method path form?).run.run s = (.error .transport, t) ∧ t.Agrees s := by
  refine ⟨_, ?_, s.agrees_note .debug (method.text ++ " " ++ c.url path)⟩
  rw [exchange_eq, ask, h]
  rfl

/-- One request is sent, and the result is what its answer comes to. -/
theorem run_exchange_of_some {r : Request} (h : c.request? method path form? = some r) :
    ∃ t, (c.exchange method path form?).run.run s = ((s.send r).1.judged, t) ∧
      t.Agrees (s.send r).2 := by
  let noted := s.note .debug (method.text ++ " " ++ c.url path)
  obtain ⟨hanswer, hagrees⟩ := (s.agrees_note .debug (method.text ++ " " ++ c.url path)).send r
  obtain ⟨t, hjudge, ht⟩ := c.run_judge (noted.send r).2 method path (noted.send r).1
  refine ⟨t, ?_, ht.trans hagrees⟩
  rw [← hanswer, ← hjudge, exchange_eq, ask, h]
  rfl

/-- No exchange fails for a reason that the setting up of a client may have. -/
theorem exchangeWith_ne_setup {allows : UInt8 → Bool} (h : AllowsText allows) (reason : String) :
    ((c.exchangeWith allows method path form?).run.run s).1 ≠ .error (.setup reason) := by
  rw [exchangeWith_eq c method path form? h, ← exchange_eq]
  cases hr : c.request? method path form? with
  | none =>
    obtain ⟨t, hrun, -⟩ := c.run_exchange_of_none s method path form? hr
    rw [hrun]
    nofun
  | some r =>
    obtain ⟨t, hrun, -⟩ := c.run_exchange_of_some s method path form? hr
    rw [hrun]
    exact (s.send r).1.judged_ne_setup reason

variable {s} (o : Operation α)

/-- Carrying out an operation is an exchange, the answer of which is read. -/
theorem run_perform {t : Session} {result : Except Failure String}
    (h : ∀ u : Session, u.Agrees s → ∃ t', t'.Agrees t ∧
      (c.exchange o.method o.path o.form?).run.run u = (result, t')) :
    ∃ t', (c.perform o).run.run s = (result.bind o.read, t') ∧ t'.Agrees t := by
  have hremark : ∃ (u : Session) (reading : String → Call α), u.Agrees s ∧
      (∀ body t', (reading body).run.run t' = (o.read body, t')) ∧
      (c.perform o).run.run s =
        (c.exchange o.method o.path o.form? >>= reading).run.run u := by
    rw [perform]
    cases o.remark? with
    | none =>
      refine ⟨s, _, .refl s, fun body t' => ?_, rfl⟩
      cases o.read body <;> rfl
    | some remark =>
      refine ⟨s.note .info remark, _, s.agrees_note _ _, fun body t' => ?_,
        Call.run_note_bind ..⟩
      cases o.read body <;> rfl
  obtain ⟨u, reading, hu, hreading, hperform⟩ := hremark
  obtain ⟨t', ht, hexchange⟩ := h u hu
  refine ⟨t', ?_, ht⟩
  rw [hperform, Call.run_bind, hexchange]
  cases result with
  | error f => rfl
  | ok body => exact hreading body t'

theorem run_perform_of_none (h : c.request? o.method o.path o.form? = none) :
    ∃ t, (c.perform o).run.run s = (.error .transport, t) ∧ t.Agrees s :=
  c.run_perform o fun u hu => by
    obtain ⟨t, hexchange, ht⟩ := c.run_exchange_of_none u o.method o.path o.form? h
    exact ⟨t, ht.trans hu, hexchange⟩

/-- An operation sends its request, and what it returns is what it reads in the answer. -/
theorem run_perform_of_some {r : Request} (h : c.request? o.method o.path o.form? = some r) :
    ∃ t, (c.perform o).run.run s = ((s.send r).1.judged.bind o.read, t) ∧
      t.Agrees (s.send r).2 :=
  c.run_perform o fun u hu => by
    obtain ⟨t, hexchange, ht⟩ := c.run_exchange_of_some u o.method o.path o.form? h
    obtain ⟨hanswer, hagrees⟩ := hu.send r
    rw [hanswer] at hexchange
    exact ⟨t, ht.trans hagrees, hexchange⟩

/-- The form of a request is the one that was to be sent. -/
theorem form_of_request {c : Client} {method : Method} {path : String}
    {form? : Option (List Web.Form.Pair)} {r : Request} (h : c.request? method path form? = some r) :
    r.form? = form? := by
  unfold request? at h
  split at h
  · split at h
    · obtain rfl := Option.some.inj h
      rfl
    · cases h
  · cases h

/-- A call sends one request at most, and that is the request of its operation. -/
theorem requests_run (p : Prepared α) :
    ∃ sent? : Option Request,
      ((c.run p).run.run s).2.requests = s.requests ++ sent?.toList ∧
      ∀ r ∈ sent?, ∃ o, p = .ok o ∧ c.request? o.method o.path o.form? = some r := by
  cases p with
  | error m => exact ⟨none, (List.append_nil _).symm, nofun⟩
  | ok o =>
    cases hr : c.request? o.method o.path o.form? with
    | none =>
      obtain ⟨t, hrun, ht⟩ := c.run_perform_of_none (s := s) o hr
      refine ⟨none, ?_, nofun⟩
      rw [run, hrun, Option.toList_none, List.append_nil]
      exact ht.requests
    | some r =>
      obtain ⟨t, hrun, ht⟩ := c.run_perform_of_some (s := s) o hr
      cases hserver : s.server with
      | unreachable =>
        refine ⟨none, ?_, nofun⟩
        rw [run, hrun, Option.toList_none, List.append_nil]
        rw [Session.send, hserver] at ht
        exact ht.requests
      | scripted plan =>
        refine ⟨some r, ?_, fun r' hr' => ⟨o, rfl, ?_⟩⟩
        · rw [run, hrun]
          rw [Session.send_of_scripted hserver] at ht
          exact ht.requests
        · rw [← hr', hr]

/-- What a call does depends on nothing in the session but the server. -/
theorem run_congr (p : Prepared α) {s t : Session} (h : s.Agrees t) :
    ((c.run p).run.run s).1 = ((c.run p).run.run t).1 ∧
      ((c.run p).run.run s).2.Agrees ((c.run p).run.run t).2 := by
  cases p with
  | error m => exact ⟨rfl, h⟩
  | ok o =>
    cases hr : c.request? o.method o.path o.form? with
    | none =>
      obtain ⟨s', hs, hs'⟩ := c.run_perform_of_none (s := s) o hr
      obtain ⟨t', ht, ht'⟩ := c.run_perform_of_none (s := t) o hr
      rw [run, hs, ht]
      exact ⟨rfl, hs'.trans (h.trans ht'.symm)⟩
    | some r =>
      obtain ⟨s', hs, hs'⟩ := c.run_perform_of_some (s := s) o hr
      obtain ⟨t', ht, ht'⟩ := c.run_perform_of_some (s := t) o hr
      obtain ⟨hanswer, hagrees⟩ := h.send r
      rw [run, hs, ht, hanswer]
      exact ⟨rfl, hs'.trans (hagrees.trans ht'.symm)⟩

end Client

/-! ## Answers that hold a value -/

/-- An answer with success whose body is the text of a value. -/
def Answer.saying (v : Json) : Answer := .reply ⟨200⟩ (Text.Utf8.encode v.compact.toList)

/-- A session with a server that has one answer ready for any request. -/
def Session.expecting (a : Answer) : Session := .start (.scripted [⟨none, a⟩])

/-- The body of an answer that may have one is the text that was sent in it. -/
theorem bodyText_encode {status : Web.Status} (h : hasNoBody status = false) (text : String) :
    bodyText status (Text.Utf8.encode text.toList) = text := by
  rw [bodyText, h, if_neg Bool.false_ne_true, Text.Utf8.decodeLossy_encode, String.ofList_toList]

theorem bodyText_saying (v : Json) :
    bodyText ⟨200⟩ (Text.Utf8.encode v.compact.toList) = v.compact :=
  bodyText_encode rfl v.compact

theorem judged_saying (v : Json) : (Answer.saying v).judged = .ok v.compact :=
  congrArg Except.ok (bodyText_saying v)

/-- A list is never taken for null. -/
theorem bodyOrNull_list (vs : List Json) :
    bodyOrNull (Json.list vs).compact = (Json.list vs).compact := by
  have hsolid : Text.isBlankText (Json.list vs).compact = false :=
    Text.isBlankText_of_mem (c := '[') (by simp [Json.compact, Json.compactChars]) (by decide)
  rw [bodyOrNull, hsolid]
  rfl

end EdgeConsole.Api
