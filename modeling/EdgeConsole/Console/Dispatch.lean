import EdgeConsole.Api.Account
import EdgeConsole.Catalog.Builtin
import EdgeConsole.Console.Problem

/-!
# Listing, fetching and deleting by kind

A user names a kind by its key, and every kind has its own operation of the API behind each action.
The results are JSON, ready to be shown. A kind that is unknown, or that lacks the action, fails
before anything is sent.

Which kinds there are and what they can do is said by the catalogue (`lookup`). Which operation a key
leads to is said here, by the key again: `versionedWords` has the kinds that belong to a version, and
each of `list`, `get` and `delete` the others. A key of the catalogue that leads nowhere would be
reported as such.

`list`, `get` and `delete` act on one kind; `summary` lists several kinds and reports the problem of
each kind by itself.
-/

namespace EdgeConsole.Console

open Api
open Catalog (Action Definition Kind)
open Record (Row)
open Resource (VersionedKind User)

/-- A step of a conversation that fails with a problem. -/
abbrev Errand (α : Type) : Type := ExceptT Problem (StateM Session) α

/-- Carries out an operation of the API. -/
def ask (c : Client) (p : Prepared α) : Errand α :=
  (c.run p).adapt .api

/-- The identifiers that a command is given. -/
structure Context where
  service? : Option String := none
  version? : Option UInt32 := none
  customer? : Option String := none
deriving DecidableEq, Repr

namespace Context

/-- The service, or the empty text, which the API reports as missing. -/
def service (ctx : Context) : String := ctx.service?.getD ""

/-- The version of the service, or zero, which the API reports as missing. -/
def versionRef (ctx : Context) : VersionRef := ⟨ctx.service, ctx.version?.getD 0⟩

end Context

/-- The definition of the kind of a key, if it has the action. -/
def lookup (key : String) (action : Action) : Except Problem Definition :=
  match Kind.ofKey? key with
  | none => .error (.unknownKind key)
  | some kind =>
    if kind.definition.supports action then .ok kind.definition
    else .error (.unsupported kind.definition.displayName action)

/-- The kinds that belong to a version, under the keys that lead to their operations. -/
def versionedWords : List (String × VersionedKind) :=
  [("backends", .backend), ("directors", .director), ("healthchecks", .healthCheck),
   ("domains", .domain), ("conditions", .condition), ("logging-bigquery", .bigQuery),
   ("logging-cloudfiles", .cloudfiles), ("logging-ftp", .ftp), ("logging-gcs", .gcs),
   ("logging-logentries", .logentries), ("logging-loggly", .loggly),
   ("logging-papertrail", .papertrail), ("logging-s3", .s3), ("logging-splunk", .splunk),
   ("logging-sumologic", .sumologic), ("logging-syslog", .syslog)]

/-- Carries out an operation whose result is to be shown. -/
def askItem {κ : Type} [Record.WritableKind κ] {s : Record.Schema κ} (c : Client)
    (p : Prepared s.Value) : Errand Json := do
  return (← ask c p).toJson

/-- Carries out an operation whose results are to be shown. -/
def askItems {κ : Type} [Record.WritableKind κ] {s : Record.Schema κ} (c : Client)
    (p : Prepared (List s.Value)) : Errand (List Json) := do
  return (← ask c p).map Row.toJson

/-! ## Listing -/

/-- The customer whose users are listed: the one given, or that of the user whom the key belongs to.
-/
def customerOf (c : Client) (ctx : Context) : Errand String := do
  match ctx.customer? with
  | some customer => return customer
  | none =>
    let user ← ask c getCurrentUser
    match (User.customer? user).filter (!·.isEmpty) with
    | some customer => return customer
    | none => throw .noCustomer

/-- Lists the items of the kind with a key. -/
def list (c : Client) (ctx : Context) (key : String) : Errand (List Json) := do
  let _ ← lookup key .list
  note .debug ("list: kind=" ++ key)
  match versionedWords.lookup key with
  | some k => askItems c (listItems k ctx.versionRef)
  | none =>
    match key with
    | "services" => askItems c listServices
    | "versions" => askItems c (listVersions ctx.service)
    | "tokens" => askItems c listTokens
    | "users" => do
      let customer ← customerOf c ctx
      askItems c (listCustomerUsers customer)
    | _ => throw (.noOperation .list key)

/-! ## Fetching -/

/-- The word for a client's own token. -/
def ownTokenWord : String := "self"

/-- The word for the user whom the key belongs to. -/
def ownUserWord : String := "current"

/-- Fetches an item of the kind with a key. -/
def get (c : Client) (ctx : Context) (key name : String) : Errand Json := do
  let definition ← lookup key .get
  note .debug ("get: kind=" ++ key ++ ", " ++ definition.itemLabel name)
  match versionedWords.lookup key with
  | some k => askItem c (getItem k (ctx.versionRef.named name))
  | none =>
    match key with
    | "services" => askItem c (getService name)
    | "versions" =>
      match Number.readWord32 name with
      | .error fault => throw (.badVersionNumber name fault)
      | .ok number => askItem c (getVersion ⟨ctx.service, number⟩)
    | "tokens" => if name = ownTokenWord then askItem c getOwnToken else throw .foreignToken
    | "users" => askItem c (if name = ownUserWord then getCurrentUser else getUser name)
    | _ => throw (.noOperation .get key)

/-! ## Deleting -/

/-- Deletes an item of the kind with a key. -/
def delete (c : Client) (ctx : Context) (key name : String) : Errand Unit := do
  let definition ← lookup key .delete
  note .info ("delete: kind=" ++ key ++ ", " ++ definition.itemLabel name)
  match versionedWords.lookup key with
  | some k => ask c (deleteItem k (ctx.versionRef.named name))
  | none =>
    match key with
    | "services" => ask c (deleteService name)
    | "tokens" => ask c (if name = ownTokenWord then deleteOwnToken else deleteToken name)
    | "users" => ask c (deleteUser name)
    | _ => throw (.noOperation .delete key)

/-! ## Summary -/

/-- Lists several kinds. The problem of a kind is its own. -/
def summary (c : Client) (ctx : Context) :
    List Kind → StateM Session (List (Kind × Except Problem (List Json)))
  | [] => return []
  | k :: rest => do
    let result ← (list c ctx k.key).run
    return (k, result) :: (← summary c ctx rest)

/-! ## The version to work on -/

/-- The version that a command works on if it names none: the first active one, else the last. -/
def preferred? (versions : List Resource.Version) : Option Resource.Version :=
  versions.find? Resource.Version.active <|> versions.getLast?

/-- Fills in the version for a kind that belongs to one, unless it is given or there is no service.
-/
def withVersion (c : Client) (ctx : Context) (key : String) : Errand Context := do
  match Kind.ofKey? key with
  | some (.versioned _) =>
    if ctx.version?.isSome || ctx.service.isEmpty then return ctx
    else
      match preferred? (← ask c (listVersions ctx.service)) with
      | none => throw (.noVersions ctx.service)
      | some v =>
        let number := Resource.Version.number v
        note .debug ("Resolved version " ++ toString number.toNat ++ " for " ++ ctx.service)
        return { ctx with version? := some number }
  | _ => return ctx

end EdgeConsole.Console
