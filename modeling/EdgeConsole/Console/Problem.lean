import EdgeConsole.Api.Failure
import EdgeConsole.Catalog.Definition
import EdgeConsole.Number.Natural

/-!
# Problems

Why a command of the console fails: because an API call does, or because what was asked for makes no
sense to the console itself.
-/

namespace EdgeConsole.Console

open Catalog (Action)

/-- Why a command fails. -/
inductive Problem
  | api (f : Api.Failure)
  /-- No kind has this key. -/
  | unknownKind (key : String)
  /-- The kind does not have this action. -/
  | unsupported (displayName : String) (action : Action)
  /-- The kind has the action, but no operation stands behind it. -/
  | noOperation (action : Action) (key : String)
  /-- A version was named by something that is no number. -/
  | badVersionNumber (name : String) (fault : Number.NaturalFault)
  /-- A token other than the client's own was asked for. -/
  | foreignToken
  /-- The user that the key belongs to has no customer. -/
  | noCustomer
  /-- A service has no versions. -/
  | noVersions (service : String)
  /-- The key on the command line has not the form of one. -/
  | malformedKey
  /-- There is no key. -/
  | noKey
  /-- The settings cannot be saved. -/
  | unsaved
deriving Repr

namespace Problem

/-- The wording of a problem. -/
def message : Problem → String
  | .api f => f.message
  | .unknownKind key => "Unknown resource: " ++ key
  | .unsupported displayName action => displayName ++ " does not support " ++ action.label
  | .noOperation action key => "No " ++ action.word ++ " operation for " ++ key
  | .badVersionNumber name fault => "Invalid version number: " ++ name ++ ": " ++ fault.message
  | .foreignToken => "Only the current token can be fetched; use 'self'"
  | .noCustomer => "Current user has no customer id"
  | .noVersions service => "Service " ++ service ++ " has no versions"
  | .malformedKey => "The API key given with --api-key is malformed"
  | .noKey => "No Fastly API key configured. Set FASTLY_API_KEY or use --api-key"
  | .unsaved => "The settings cannot be saved"

/-- The wording of a problem for the user. -/
def explanation : Problem → String
  | .api f => f.explanation
  | p => p.message

end Problem

end EdgeConsole.Console
