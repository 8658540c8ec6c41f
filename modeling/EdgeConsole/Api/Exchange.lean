import EdgeConsole.Api.Client
import EdgeConsole.Api.LogText
import EdgeConsole.Web.Form

/-!
# Exchanges with a server

A session is a conversation with one server: the requests that have reached it, in order, and the
log of what was done. A server is either out of reach or answers each request with the first answer
still planned that suits it. `Client.exchange` is the only way in which a request is sent, and it
sends one or none. The key is sent in a header, whose value may hold some bytes only; which ones is
a parameter of `Client.exchangeWith`.
-/

namespace EdgeConsole.Api

open Access (ApiKey)
open Web (Status)

/-! ## Requests and answers -/

/-- What a request wants done. -/
inductive Method
  | get
  | post
  | put
  | delete
deriving DecidableEq, Repr

/-- The name of a method. -/
def Method.text : Method → String
  | .get => "GET"
  | .post => "POST"
  | .put => "PUT"
  | .delete => "DELETE"

/-- A request as it reaches a server. -/
structure Request where
  method : Method
  target : String
  form? : Option (List Web.Form.Pair)
  key : ApiKey
  agent : Agent

namespace Request

/-- The method and the target. -/
def line (r : Request) : String := r.method.text ++ " " ++ r.target

/-- The body, which is empty without a form. -/
def body (r : Request) : String := (r.form?.map Web.Form.encode).getD ""

/-- The media type of the body, if the request has a form. -/
def contentType? (r : Request) : Option String :=
  r.form?.map fun _ => "application/x-www-form-urlencoded"

end Request

/-- What comes back for a request. -/
inductive Answer
  | reply (status : Status) (body : List UInt8)
  /-- The connection closes without an answer. -/
  | dropped
deriving DecidableEq, Repr

/-- An answer that a server has ready for one request, or for any. -/
structure Planned where
  line? : Option String
  answer : Answer
deriving DecidableEq, Repr

/-- A server. -/
inductive Server
  | unreachable
  | scripted (plan : List Planned)
deriving DecidableEq, Repr

/-- The answer suits a request line. -/
def Planned.suits (line : String) (p : Planned) : Bool := p.line?.all (· == line)

/-- What a server says when it has nothing ready. -/
def unplanned : Answer := .reply ⟨599⟩ []

/-- Takes the first answer that suits a request line. -/
def takeAnswer (line : String) (plan : List Planned) : Answer × List Planned :=
  match plan.find? (·.suits line) with
  | some p => (p.answer, plan.eraseP (·.suits line))
  | none => (unplanned, plan)

/-! ## Sessions -/

/-- How much an event matters. -/
inductive Level
  | trace
  | debug
  | info
  | warn
  | error
deriving DecidableEq, Repr

/-- The name of a level. -/
def Level.text : Level → String
  | .trace => "TRACE"
  | .debug => "DEBUG"
  | .info => "INFO"
  | .warn => "WARN"
  | .error => "ERROR"

/-- Something worth a line in a log. -/
structure Event where
  level : Level
  message : String
deriving DecidableEq, Repr

/-- A conversation with a server. -/
structure Session where
  server : Server
  requests : List Request
  events : List Event

/-- The beginning of a conversation. -/
def Session.start (server : Server) : Session := ⟨server, [], []⟩

/-- Notes an event. -/
def Session.note (level : Level) (message : String) (s : Session) : Session :=
  { s with events := s.events ++ [⟨level, message⟩] }

/-- Brings a request to the server and its answer back; a server out of reach sees nothing. -/
def Session.send (r : Request) (s : Session) : Answer × Session :=
  match s.server with
  | .unreachable => (.dropped, s)
  | .scripted plan =>
    let (answer, rest) := takeAnswer r.line plan
    (answer, { s with server := .scripted rest, requests := s.requests ++ [r] })

/-- A step of a conversation that may fail; what it did before stays done. -/
abbrev Call (α : Type) : Type := ExceptT Failure (StateM Session) α

/-- Notes an event. -/
def note (level : Level) (message : String) : StateM Session Unit :=
  modify (·.note level message)

/-- Statuses whose answers have no body. -/
def hasNoBody (s : Status) : Bool := s.code == 204 || s.code == 304

/-- The text of an answer's body. -/
def bodyText (status : Status) (bytes : List UInt8) : String :=
  if hasNoBody status then "" else String.ofList (Text.Utf8.decodeLossy bytes)

/-- A request can be sent to a URL of this scheme. -/
def isSendable (u : Web.Url) : Bool :=
  u.scheme == ['h', 't', 't', 'p'] || u.scheme == ['h', 't', 't', 'p', 's']

/-- The request that a client sends for a path, if its address is one that can be asked. -/
def Client.request? (c : Client) (method : Method) (path : String)
    (form? : Option (List Web.Form.Pair)) : Option Request :=
  match Web.Url.ofText (c.url path) with
  | .ok u => if isSendable u then some ⟨method, u.target, form?, c.key, c.agent⟩ else none
  | .error _ => none

/-- Judges an answer by its status. -/
def Client.judge (c : Client) (method : Method) (path : String) : Answer → Call String
  | .dropped => throw .transport
  | .reply status bytes => do
    let body := bodyText status bytes
    let outcome := method.text ++ " " ++ c.url path ++ " -> " ++ status.text
    if status.isSuccess then
      note .trace outcome
      return body
    else
      note .error ("API error: " ++ outcome ++ " - " ++ logText body)
      throw (.ofAnswer status body)

/-! ## Exchanges -/

/-- A byte that may stand in the value of a header: a tab, or one that is no control character. -/
def isHeaderByte (b : UInt8) : Bool := b == 9 || (32 ≤ b && b != 127)

/-- The text can be the value of a header in which the bytes allowed may stand. -/
def isHeaderValue (allows : UInt8 → Bool) (s : String) : Bool :=
  (Text.Utf8.encode s.toList).all allows

/-- Sends a request, if the address can be asked, and judges its answer. -/
def Client.ask (c : Client) (method : Method) (path : String)
    (form? : Option (List Web.Form.Pair)) : Call String := do
  match c.request? method path form? with
  | none => throw .transport
  | some r => c.judge method path (← modifyGet (·.send r))

/-- Sends a request and returns the body of its answer, provided that the key can be the value of a
header in which the bytes allowed may stand. -/
def Client.exchangeWith (c : Client) (allows : UInt8 → Bool) (method : Method) (path : String)
    (form? : Option (List Web.Form.Pair)) : Call String := do
  note .debug (method.text ++ " " ++ c.url path)
  if isHeaderValue allows c.key.text then
    c.ask method path form?
  else
    throw (.setup "API key is not a valid header value")

/-- Sends a request and returns the body of its answer. -/
def Client.exchange (c : Client) (method : Method) (path : String)
    (form? : Option (List Web.Form.Pair)) : Call String :=
  c.exchangeWith isHeaderByte method path form?

end EdgeConsole.Api
