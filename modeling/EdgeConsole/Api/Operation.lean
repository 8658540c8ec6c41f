import EdgeConsole.Api.Exchange
import EdgeConsole.Text.Blank

/-!
# Operations

An operation says what to ask of a server and how to read the answer, so that everything the API
offers is described before anything is sent. An operation that lacks an identifier is none at all:
it is the `Missing` identifier instead, and `Client.run` then sends nothing.

Main definitions: `Operation`, `Client.run`, the readers `readBody` and `readStatus`, `sortedOn`.
-/

namespace EdgeConsole.Api

open Json (Outline ReadError)
open Record (Schema FieldKind)
open Resource (Scalar shown)

/-- A request in the making, and how its answer is read. -/
structure Operation (α : Type) where
  method : Method
  path : String
  form? : Option (List Web.Form.Pair)
  read : String → Except Failure α
  /-- What is worth a line in the log before the request is sent. -/
  remark? : Option String := none

/-- An operation, if nothing that it needs is missing. -/
abbrev Prepared (α : Type) : Type := Except Missing (Operation α)

/-- Asks for something that has to be there. -/
def require (present : Bool) (m : Missing) : Except Missing Unit :=
  if present then .ok () else .error m

/-- The operation, once the check of its identifiers has found nothing missing. -/
def checked (check : Except Missing Unit) (o : Operation α) : Prepared α :=
  match check with
  | .error m => .error m
  | .ok () => .ok o

/-- Carries out an operation. -/
def Client.perform (c : Client) (o : Operation α) : Call α := do
  match o.remark? with
  | some remark => note .info remark
  | none => pure ()
  match o.read (← c.exchange o.method o.path o.form?) with
  | .ok a => return a
  | .error f => throw f

/-- Carries out an operation, if nothing that it needs is missing. -/
def Client.run (c : Client) : Prepared α → Call α
  | .error m => throw (.missing m)
  | .ok o => c.perform o

namespace Operation

/-- An operation without a form. -/
def plain (method : Method) (path : String) (read : String → Except Failure α) : Operation α :=
  { method, path, form? := none, read }

/-- An operation that sends a form. -/
def withForm (method : Method) (path : String) (form : List Web.Form.Pair)
    (read : String → Except Failure α) : Operation α :=
  { method, path, form? := some form, read }

/-- The same operation with its result changed. -/
def map (f : α → β) (o : Operation α) : Operation β :=
  { method := o.method, path := o.path, form? := o.form?, read := fun body => (o.read body).map f,
    remark? := o.remark? }

end Operation

/-! ## Reading answers -/

/-- The text that is read for a body: an answer of blanks alone means null. -/
def bodyOrNull (body : String) : String :=
  if Text.isBlankText body then "null" else body

/-- Reads the value in a body. -/
def readBody (read : Outline → Except ReadError α) (body : String) : Except Failure α :=
  match Json.readText read (bodyOrNull body) with
  | .ok a => .ok a
  | .error e => .error (.undecodable e)

/-- Reads a record. -/
def readItem {κ : Type} [FieldKind κ] (s : Schema κ) : String → Except Failure s.Value :=
  readBody (s.read Json.depthLimit)

/-- Reads a list of records. -/
def readItems {κ : Type} [FieldKind κ] (s : Schema κ) : String → Except Failure (List s.Value) :=
  readBody (·.readList Json.depthLimit s.read)

/-- Reads a value of any shape. -/
def readAny : String → Except Failure Json :=
  readBody (·.readValue Json.depthLimit)

/-- Reads a body for nothing but whether it can be read. -/
def readNothing (body : String) : Except Failure Unit :=
  (readAny body).map fun _ => ()

/-- The body of an answer to an action. -/
def outcomeSchema : Schema Scalar :=
  ⟨"StatusResponse", [⟨"status", .plainText, false⟩, shown "msg" .text]⟩

/-- The status and the message of such a body. -/
def outcomeTexts : outcomeSchema.Value → String × Option String
  | .cons status (.cons message? .nil) => (status, message?)

/-- Reads the answer to an action, which says `ok` or nothing when the action was carried out. -/
def readStatus (body : String) : Except Failure Unit :=
  if Text.isBlankText body then .ok ()
  else
    match outcomeSchema.readText body with
    | .error e => .error (.undecodable e)
    | .ok row =>
      let (status, message?) := outcomeTexts row
      if status = "ok" then .ok () else .error (.notOk (message?.getD status))

/-! ## Order -/

/-- The items in ascending order of a key; items with one key stay in their order. -/
def sortedOn [LE β] [DecidableLE β] (key : α → β) (items : List α) : List α :=
  items.mergeSort fun a b => decide (key a ≤ key b)

/-- Ordering loses nothing and repeats nothing. -/
theorem sortedOn_perm [LE β] [DecidableLE β] (key : α → β) (items : List α) :
    (sortedOn key items).Perm items :=
  List.mergeSort_perm _ _

/-- Items in ascending order of their names, code point by code point. -/
def sortedByName (name : α → String) (items : List α) : List α :=
  sortedOn name items

end EdgeConsole.Api
