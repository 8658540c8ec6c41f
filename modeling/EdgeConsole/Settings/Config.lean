import EdgeConsole.Access.Environment
import EdgeConsole.Json.Print
import EdgeConsole.Resource.Field
import EdgeConsole.Settings.Disk

/-!
# Settings

A user's settings: a key, an endpoint and the service last used, each of which may be absent. They
are kept as JSON in a file. A file that is missing, or that cannot be read as settings, stands for
no settings at all.

What a command works with is decided here: a value on the command line comes first, then the
settings, then the environment.
-/

namespace EdgeConsole.Settings

open Access (ApiKey Environment)
open Record (Schema Row)
open Resource (Scalar setting)

/-- The settings of a user. -/
structure Config where
  apiKey? : Option String := none
  endpoint? : Option String := none
  service? : Option String := none
deriving DecidableEq, Repr

/-- The description of the settings. -/
def configSchema : Schema Scalar :=
  ⟨"Config", [setting "api_key" .text, setting "endpoint" .text, setting "service_id" .text]⟩

namespace Config

/-- The settings in a row. -/
def ofRow : configSchema.Value → Config
  | .cons apiKey? (.cons endpoint? (.cons service? .nil)) => { apiKey?, endpoint?, service? }

/-- The settings as a row. -/
def toRow (c : Config) : configSchema.Value :=
  .cons c.apiKey? (.cons c.endpoint? (.cons c.service? .nil))

/-- Reads the text of settings. -/
def ofText (text : String) : Except Json.ReadError Config :=
  (configSchema.readText text).map ofRow

/-- The settings in JSON. -/
def toJson (c : Config) : Json := c.toRow.toJson

/-- The text of settings. -/
def text (c : Config) : String := c.toJson.pretty

/-! ## Loading and saving -/

/-- The file that settings are kept in. -/
def defaultPath : Path := ["fastly-mgmt", "config.json"]

/-- The settings in a file. -/
def load (d : Disk) (p : Path) : Config :=
  match (d.read? p).bind Content.text? with
  | some s =>
    match ofText s with
    | .ok c => c
    | .error _ => {}
  | none => {}

/-- Saves the settings in a file; the flag tells whether they were. -/
def save (c : Config) (d : Disk) (p : Path) : Bool × Disk :=
  d.save p (.text c.text)

/-- The settings with another service. -/
def withService (c : Config) (service : String) : Config :=
  { c with service? := some service }

/-- Changes the service and saves the settings. The settings change even if they cannot be saved. -/
def setService (c : Config) (service : String) (d : Disk) : Config × Bool × Disk :=
  let c := c.withService service
  (c, c.save d defaultPath)

/-! ## Values in effect -/

/-- The key on the command line has not the form of one. -/
inductive MalformedKey
  | malformedKey
deriving DecidableEq, Repr

/-- A key in a text, whatever blanks stand around it. -/
def keyOf? (s : String) : Option ApiKey :=
  ApiKey.ofText? (Text.trim s)

/-- The key in effect. A malformed one is an error on the command line and passed over elsewhere. -/
def effectiveKey? (c : Config) (env : Environment) :
    (argument? : Option String) → Except MalformedKey (Option ApiKey)
  | some s =>
    match keyOf? s with
    | some key => .ok (some key)
    | none => .error .malformedKey
  | none => .ok (c.apiKey?.bind keyOf? <|> env.apiKey?)

/-- The endpoint in effect. -/
def effectiveEndpoint (c : Config) (env : Environment) (argument? : Option String) : String :=
  (argument? <|> c.endpoint? <|> env.endpointText?).getD Access.defaultEndpoint

/-- The service in effect. -/
def effectiveService? (c : Config) (argument? : Option String) : Option String :=
  argument? <|> c.service?

end Config

end EdgeConsole.Settings
