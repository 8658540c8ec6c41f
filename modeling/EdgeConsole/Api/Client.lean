import EdgeConsole.Access.Environment
import EdgeConsole.Api.Failure
import EdgeConsole.Web.Url.Basic

/-!
# Clients

A client holds a key and an endpoint. The endpoint has to be a URL below which paths can stand; it
is kept as it was given, less the slashes at its end, and every path is appended to that text.
-/

namespace EdgeConsole.Api

open Access (ApiKey Environment)

/-- What a client says about itself in its requests. -/
inductive Agent
  /-- It names itself and asks for JSON. -/
  | console
  /-- It says nothing. -/
  | plain
deriving DecidableEq, Repr

/-- The media type that an agent asks for. -/
def Agent.accept : Agent → String
  | .console => "application/json"
  | .plain => "*/*"

/-- The name that an agent gives. -/
def Agent.name? : Agent → Option String
  | .console => some "fastly-mgmt/0.2.1"
  | .plain => none

/-- A client of the API. -/
structure Client where
  key : ApiKey
  endpoint : String
  agent : Agent

/-- The text without the slashes at its end. -/
def trimSlashes (s : String) : String :=
  String.ofList (Text.dropTail (· == '/') s.toList)

namespace Client

/-- Sets up a client. -/
def of? (key endpoint : String) (agent : Agent := .console) : Except Failure Client :=
  match ApiKey.ofText? key with
  | none => .error (.setup "API key is empty or malformed")
  | some key =>
    match Web.Url.ofText endpoint with
    | .error fault => .error (.endpoint fault)
    | .ok url =>
      if url.isBase then .ok ⟨key, trimSlashes endpoint, agent⟩
      else .error (.setup ("endpoint " ++ endpoint ++ " cannot be a base URL"))

/-- Sets up a client from what the environment gives. -/
def ofEnvironment? (env : Environment) : Except Failure Client :=
  match env.apiKey? with
  | none => .error (.setup (Access.keyVariable ++ " is not set"))
  | some key => of? key.text (env.endpointText?.getD Access.defaultEndpoint)

/-- The address of a path. -/
def url (c : Client) (path : String) : String :=
  if path.toList.head? = some '/' then c.endpoint ++ path else c.endpoint ++ "/" ++ path

end Client

end EdgeConsole.Api
