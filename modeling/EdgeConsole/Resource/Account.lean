import EdgeConsole.Resource.Field

/-!
# Resources of an account

Services with their versions, the links between directors and backends, API tokens and users. A
service carries its versions with it, so its fields have two more kinds than those of other
resources: a version that may be absent, and a list of versions.
-/

namespace EdgeConsole.Resource

open Json (Outline ReadError)
open Record (FieldSpec FieldKind WritableKind Row Schema)

/-! ## Versions -/

/-- A version of a service. -/
def versionSchema : Schema Scalar :=
  ⟨"Version",
    [weakNumber "number", weakText "service_id", shown "comment" .text, weakFlag "active",
     weakFlag "locked", weakFlag "deployed", weakFlag "staging", weakFlag "testing"] ++ stamps⟩

/-- A version of a service. -/
abbrev Version : Type := versionSchema.Value

/-- The number of a version. -/
def Version.number : Version → UInt32
  | .cons n _ => n

/-- The version is the one that serves requests. -/
def Version.active : Version → Bool
  | .cons _ (.cons _ (.cons _ (.cons a _))) => a

/-- What came of checking a version. -/
def validationSchema : Schema Scalar :=
  ⟨"VersionValidation",
    [⟨"status", .plainText, false⟩, shown "msg" .text, textList "errors", textList "warnings"]⟩

/-- What came of checking a version. -/
abbrev Validation : Type := validationSchema.Value

namespace Validation

/-- The outcome in a word. -/
def status : Validation → String
  | .cons s _ => s

/-- The outcome in a sentence. -/
def message? : Validation → Option String
  | .cons _ (.cons m _) => m

def errors : Validation → List String
  | .cons _ (.cons _ (.cons es _)) => es

def warnings : Validation → List String
  | .cons _ (.cons _ (.cons _ (.cons ws _))) => ws

/-- The version can be activated. -/
def isValid (v : Validation) : Bool := v.status == "ok"

end Validation

/-! ## Services -/

/-- The kind of a field of a service. -/
inductive ServiceKind
  | scalar (k : Scalar)
  | version
  | versions

/-- The values of a field of a service. -/
abbrev ServiceKind.Val : ServiceKind → Type
  | .scalar k => k.Val
  | .version => Option Version
  | .versions => List Version

/-- Reads a field of a service. -/
def ServiceKind.read : (k : ServiceKind) → Nat → Outline → Except ReadError k.Val
  | .scalar k, depth => k.read depth
  | .version, depth => (·.readOption (versionSchema.read depth))
  | .versions, depth => (·.readListOrNull depth versionSchema.read)

/-- The value of a field of a service that is absent. -/
def ServiceKind.default : (k : ServiceKind) → k.Val
  | .scalar k => k.default
  | .version => none
  | .versions => []

/-- A field of a service in JSON. -/
def ServiceKind.write : (k : ServiceKind) → k.Val → Json
  | .scalar k, v => k.write v
  | .version, v => optionJson Row.toJson v
  | .versions, vs => .list (vs.map Row.toJson)

instance : WritableKind ServiceKind where
  Val := ServiceKind.Val
  default? k := some k.default
  read := ServiceKind.read
  write := ServiceKind.write

/-- A field of another record as a field of a service. -/
def ofScalar (f : FieldSpec Scalar) : FieldSpec ServiceKind := ⟨f.name, .scalar f.kind, f.writable⟩

/-- A service. -/
def serviceSchema : Schema ServiceKind :=
  ⟨"Service",
    [ofScalar (weakText "id"), ofScalar (weakText "name"), ofScalar (setting "comment" .text),
     ofScalar (shown "customer_id" .text), ofScalar (shown "version" .number),
     ⟨"versions", .versions, false⟩] ++ stamps.map ofScalar⟩

/-- A service. -/
abbrev Service : Type := serviceSchema.Value

/-- The name of a service. -/
def Service.name : Service → String
  | .cons _ (.cons n _) => n

/-- A service with its active and its latest version. -/
def serviceDetailSchema : Schema ServiceKind :=
  ⟨"ServiceDetail",
    [ofScalar (weakText "id"), ofScalar (weakText "name"), ofScalar (shown "comment" .text),
     ofScalar (shown "customer_id" .text), ⟨"active_version", .version, false⟩,
     ⟨"version", .version, false⟩, ⟨"versions", .versions, false⟩] ++ stamps.map ofScalar⟩

/-- A service with its active and its latest version. -/
abbrev ServiceDetail : Type := serviceDetailSchema.Value

/-! ## Links, tokens and users -/

/-- The membership of a backend in a director. -/
def directorBackendSchema : Schema Scalar :=
  ⟨"DirectorBackend",
    [weakText "service_id", weakNumber "version", weakText "director_name",
     weakText "backend_name"] ++ stamps⟩

/-- The membership of a backend in a director. -/
abbrev DirectorBackend : Type := directorBackendSchema.Value

/-- An API token. -/
def tokenSchema : Schema Scalar :=
  ⟨"Token",
    [weakText "id", weakText "name", shown "user_id" .text, textList "services",
     shown "access_token" .text, shown "scope" .text, shown "ip" .text,
     shown "created_at" .instant, shown "last_used_at" .instant, shown "expires_at" .instant]⟩

/-- An API token. -/
abbrev Token : Type := tokenSchema.Value

/-- The name of a token. -/
def Token.name : Token → String
  | .cons _ (.cons n _) => n

/-- A user of an account. -/
def userSchema : Schema Scalar :=
  ⟨"User",
    [weakText "id", weakText "login", shown "name" .text, shown "role" .text,
     shown "customer_id" .text, shown "email_hash" .text, shown "limit_services" .flag,
     shown "locked" .flag, shown "require_new_password" .flag,
     shown "two_factor_auth_enabled" .flag, shown "two_factor_setup_required" .flag] ++ stamps⟩

/-- A user of an account. -/
abbrev User : Type := userSchema.Value

/-- The name by which a user is listed: the login stands in for a name that is absent. -/
def User.displayName : User → String
  | .cons _ (.cons login (.cons name _)) => name.getD login

/-- The customer that a user belongs to. -/
def User.customer? : User → Option String
  | .cons _ (.cons _ (.cons _ (.cons _ (.cons c _)))) => c

end EdgeConsole.Resource
