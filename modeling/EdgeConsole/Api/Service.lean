import EdgeConsole.Api.Versioned

/-!
# Services and their versions

The operations on services, and on the versions of a service: listing and fetching, creation and
changes from a form, the actions on a version, and its check. Only a version's number can be missing
besides the service, and versions are listed by number.
-/

namespace EdgeConsole.Api

open Resource (Service ServiceDetail Version Validation serviceSchema serviceDetailSchema
  versionSchema validationSchema)

/-- The pair of a field that may be left out. -/
def optionalPair (name : String) (value? : Option String) : List Web.Form.Pair :=
  (value?.map fun v => (name, v)).toList

/-! ## Services -/

/-- Lists the services of the account by name. -/
def listServices : Prepared (List Service) :=
  .ok ((Operation.plain .get "/service" (readItems serviceSchema)).map (sortedByName Service.name))

/-- Creates a service. -/
def createService (name : String) (comment? : Option String) : Prepared Service :=
  checked (require (!name.isEmpty) .name) <|
    .withForm .post "/service" (("name", name) :: optionalPair "comment" comment?)
      (readItem serviceSchema)

/-- Fetches a service. -/
def getService (id : String) : Prepared Service :=
  checked (requireService id) <|
    .plain .get (servicePath id) (readItem serviceSchema)

/-- Fetches a service with its active and its latest version. -/
def getServiceDetails (id : String) : Prepared ServiceDetail :=
  checked (requireService id) <|
    .plain .get (servicePath id ++ "/details") (readItem serviceDetailSchema)

/-- Changes a service. -/
def updateService (id : String) (name? comment? : Option String) : Prepared Service :=
  checked (requireService id) <|
    .withForm .put (servicePath id) (optionalPair "name" name? ++ optionalPair "comment" comment?)
      (readItem serviceSchema)

/-- Deletes a service. -/
def deleteService (id : String) : Prepared Unit :=
  checked (requireService id) <|
    .plain .delete (servicePath id) readStatus

/-- Finds a service by its exact name. -/
def searchService (name : String) : Prepared Service :=
  checked (require (!name.isEmpty) .name) <|
    .plain .get ("/service/search?name=" ++ Web.escape name) (readItem serviceSchema)

/-! ## Versions -/

/-- The last of the items with the greatest key. -/
def lastMax? [LT β] [DecidableLT β] (key : α → β) : List α → Option α
  | [] => none
  | a :: rest =>
    match lastMax? key rest with
    | none => some a
    | some b => if key b < key a then some a else some b

/-- Lists the versions of a service by number. -/
def listVersions (service : String) : Prepared (List Version) :=
  checked (requireService service) <|
    (Operation.plain .get (versionsPath service) (readItems versionSchema)).map
      (sortedOn Version.number)

/-- The version with the greatest number. -/
def latestVersion (service : String) : Prepared (Option Version) :=
  (listVersions service).map (·.map (lastMax? Version.number))

/-- Creates a version. -/
def createVersion (service : String) (comment? : Option String) : Prepared Version :=
  checked (requireService service) <|
    .withForm .post (versionsPath service) (optionalPair "comment" comment?)
      (readItem versionSchema)

/-- Fetches a version. -/
def getVersion (r : VersionRef) : Prepared Version :=
  checked r.check <|
    .plain .get (versionPath r.service r.version) (readItem versionSchema)

/-- Changes the comment of a version. -/
def updateVersion (r : VersionRef) (comment? : Option String) : Prepared Version :=
  checked r.check <|
    .withForm .put (versionPath r.service r.version) (optionalPair "comment" comment?)
      (readItem versionSchema)

/-- What can be done with a version as a whole. -/
inductive VersionAction
  | activate
  | deactivate
  | clone
  | lock
deriving DecidableEq, Repr

/-- The name of an action. -/
def VersionAction.text : VersionAction → String
  | .activate => "activate"
  | .deactivate => "deactivate"
  | .clone => "clone"
  | .lock => "lock"

/-- Carries out an action on a version, which is worth a line in the log. -/
def actOnVersion (r : VersionRef) (action : VersionAction) : Prepared Version :=
  checked r.check
    { Operation.plain .put (versionPath r.service r.version ++ "/" ++ action.text)
        (readItem versionSchema) with
      remark? := some (action.text ++ " version " ++ toString r.version.toNat ++ " of service " ++
        r.service) }

/-- Checks a version without activating it. -/
def validateVersion (r : VersionRef) : Prepared Validation :=
  checked r.check <|
    .plain .get (versionPath r.service r.version ++ "/validate") (readItem validationSchema)

end EdgeConsole.Api
