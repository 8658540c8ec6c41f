import EdgeConsole.Json.Reading
import EdgeConsole.Record.Row
import EdgeConsole.Resource.Field
import EdgeConsole.Web.Status
import EdgeConsole.Web.Url.Host

/-!
# Failures of API calls

A call fails because an identifier is missing, because no answer came, because the answer refuses
the request or says that it was not carried out, or because the answer cannot be read. Each cause
has a wording (`Failure.message`), and a second one for the user (`Failure.explanation`).
-/

namespace EdgeConsole.Api

open Web (Status)

/-- An identifier that a call cannot do without. -/
inductive Missing
  | service
  | version
  | name
  | director
  | backend
  | id
  | tokenId
  | customerId
  | login
deriving DecidableEq, Repr

/-- The name of the field that is missing. -/
def Missing.field : Missing → String
  | .service => "Service"
  | .version => "Version"
  | .name => "Name"
  | .director => "Director"
  | .backend => "Backend"
  | .id => "ID"
  | .tokenId => "TokenID"
  | .customerId => "CustomerID"
  | .login => "Login"

/-- Why a call failed. -/
inductive Failure
  /-- A required identifier is empty, or the version is zero. -/
  | missing (m : Missing)
  /-- The answer has a status that is no success. -/
  | http (status : Status) (message : String) (detail? : Option String)
  /-- The answer says that the request was not carried out. -/
  | notOk (message : String)
  /-- No answer came. -/
  | transport
  /-- The answer cannot be read as what was asked for. -/
  | undecodable (e : Json.ReadError)
  /-- The endpoint is no URL. -/
  | endpoint (fault : Web.Url.Fault)
  /-- The client cannot be set up. -/
  | setup (reason : String)
deriving Repr

namespace Failure

/-- The wording of a failure. -/
def message : Failure → String
  | .missing m => "missing required field '" ++ m.field ++ "'"
  | .http status message _ => status.text ++ ": " ++ message
  | .notOk message => "operation not ok: " ++ message
  | .transport => "failed to send request"
  | .undecodable e => "failed to decode response: " ++ e.message
  | .endpoint fault => "invalid endpoint: " ++ fault.message
  | .setup reason => "configuration error: " ++ reason

/-- An identifier is missing. -/
def isMissingField : Failure → Bool
  | .missing _ => true
  | _ => false

/-- The status of the answer, if there was one and it was no success. -/
def status? : Failure → Option Status
  | .http status _ _ => some status
  | _ => none

/-- What a status means to a user, for those that are explained. -/
def advice? (s : Status) : Option String :=
  match s.code with
  | 401 => some "Authentication failed. Check FASTLY_API_KEY or --api-key."
  | 403 => some "Permission denied. The API token lacks the required scope."
  | 404 => some "Resource not found."
  | 409 => some "Resource conflict. The resource may already exist."
  | 429 => some "Rate limit exceeded. Please try again later."
  | 500 => some "Fastly API temporarily unavailable. Please try again."
  | 503 => some "Fastly API temporarily unavailable. Please try again."
  | _ => none

/-- The wording of a failure for the user. -/
def explanation : Failure → String
  | .http status message detail? =>
    match advice? status, detail? with
    | some advice, _ => advice
    | none, some detail => message ++ ": " ++ detail
    | none, none => message
  | .transport => "Request failed. Check your network connection and try again."
  | f => f.message

end Failure

/-! ## Answers that refuse a request -/

open Resource (Scalar shown)
open Record (Schema)

/-- The body of an answer that refuses a request. -/
def refusalSchema : Schema Scalar :=
  ⟨"ErrorBody", [shown "msg" .text, shown "detail" .text]⟩

/-- The message and the detail of such a body. -/
def refusalTexts : refusalSchema.Value → Option String × Option String
  | .cons message? (.cons detail? .nil) => (message?, detail?)

/-- The failure that an answer without success stands for. A body of another form, and an empty
message, leave the phrase of the status as the message; an empty detail is none. -/
def Failure.ofAnswer (status : Status) (body : String) : Failure :=
  let texts := match refusalSchema.readText body with
    | .ok row => refusalTexts row
    | .error _ => (none, none)
  let message := (texts.1.filter (!·.isEmpty)).getD (status.reason?.getD "Unknown")
  .http status message (texts.2.filter (!·.isEmpty))

end EdgeConsole.Api
