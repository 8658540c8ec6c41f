import EdgeConsole.Access.Key
import EdgeConsole.Text.Blank

/-!
# The environment

A key and an endpoint may be given by two variables of the environment. Blanks around their values
do not count, and a value that is then of no use counts as absent.
-/

namespace EdgeConsole.Access

/-- The variable that may hold a key. -/
def keyVariable : String := "FASTLY_API_KEY"

/-- The variable that may hold an endpoint. -/
def endpointVariable : String := "FASTLY_API_URL"

/-- The endpoint that is used when no other is given. -/
def defaultEndpoint : String := "https://api.fastly.com"

/-- The values of the two variables, as far as they are set. -/
structure Environment where
  key? : Option String
  endpoint? : Option String
deriving DecidableEq, Repr

namespace Environment

/-- The key that the environment gives. -/
def apiKey? (env : Environment) : Option ApiKey :=
  env.key?.bind fun s => ApiKey.ofText? (Text.trim s)

/-- The endpoint that the environment gives. -/
def endpointText? (env : Environment) : Option String :=
  (env.endpoint?.map Text.trim).filter (!·.isEmpty)

end Environment

end EdgeConsole.Access
