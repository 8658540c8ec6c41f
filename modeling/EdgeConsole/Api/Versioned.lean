import EdgeConsole.Api.Operation
import EdgeConsole.Api.Path
import EdgeConsole.Resource.Account
import EdgeConsole.Resource.Versioned

/-!
# Resources of a version

The sixteen kinds of resources that belong to a version have the same operations: listing, creation
from a form, fetching, changing, which may rename, and deletion. A backend can further be linked to
a director.

The identifiers of an operation are checked in the order service, version, name; its form never
holds them, except for the name that a resource is to have.
-/

namespace EdgeConsole.Api

open Resource (VersionedKind Patch)

/-- A version of a service. -/
structure VersionRef where
  service : String
  version : UInt32
deriving DecidableEq, Repr

/-- A resource in a version by its name. -/
structure NameRef extends VersionRef where
  name : String
deriving DecidableEq, Repr

/-- A backend in a director. -/
structure LinkRef extends VersionRef where
  director : String
  backend : String
deriving DecidableEq, Repr

/-- A service has to be named. -/
def requireService (service : String) : Except Missing Unit :=
  require (!service.isEmpty) .service

/-- The resource of this name in a version. -/
def VersionRef.named (r : VersionRef) (name : String) : NameRef := ⟨r, name⟩

/-- The service has to be named and the version has to have a number. -/
def VersionRef.check (r : VersionRef) : Except Missing Unit := do
  requireService r.service
  require (r.version != 0) .version

/-- The version and the name have to be given. -/
def NameRef.check (r : NameRef) : Except Missing Unit := do
  r.toVersionRef.check
  require (!r.name.isEmpty) .name

/-- The version, the director and the backend have to be given. -/
def LinkRef.check (r : LinkRef) : Except Missing Unit := do
  r.toVersionRef.check
  require (!r.director.isEmpty) .director
  require (!r.backend.isEmpty) .backend

/-- The path of the resources of a kind. -/
def VersionRef.path (r : VersionRef) (k : VersionedKind) : String :=
  collectionPath r.service r.version k.segment

/-- The path of a resource. -/
def NameRef.path (r : NameRef) (k : VersionedKind) : String :=
  itemPath r.service r.version k.segment r.name

/-- The path of a link. -/
def LinkRef.path (r : LinkRef) : String :=
  linkPath r.service r.version r.director r.backend

/-! ## Forms -/

/-- The form that creates a resource: its name, then its settings. -/
def creationForm {k : VersionedKind} (name : String) (changes : k.Changes) : List Web.Form.Pair :=
  ("name", name) :: changes.pairs

/-- The form that changes a resource: its new name, if it gets one, then the settings that change.
-/
def changeForm {k : VersionedKind} (newName? : Option String) (changes : k.Changes) :
    List Web.Form.Pair :=
  (newName?.map fun name => ("name", name)).toList ++ changes.pairs

/-! ## Operations -/

/-- Lists the resources of a kind by name. -/
def listItems (k : VersionedKind) (r : VersionRef) : Prepared (List k.Item) :=
  checked r.check <|
    (Operation.plain .get (r.path k) (readItems k.schema)).map (sortedByName VersionedKind.name)

/-- Creates a resource. -/
def createItem (k : VersionedKind) (r : NameRef) (changes : k.Changes) : Prepared k.Item :=
  checked r.check <|
    .withForm .post (r.toVersionRef.path k) (creationForm r.name changes) (readItem k.schema)

/-- Fetches a resource. -/
def getItem (k : VersionedKind) (r : NameRef) : Prepared k.Item :=
  checked r.check <|
    .plain .get (r.path k) (readItem k.schema)

/-- Changes a resource. -/
def updateItem (k : VersionedKind) (r : NameRef) (newName? : Option String) (changes : k.Changes) :
    Prepared k.Item :=
  checked r.check <|
    .withForm .put (r.path k) (changeForm newName? changes) (readItem k.schema)

/-- Deletes a resource. -/
def deleteItem (k : VersionedKind) (r : NameRef) : Prepared Unit :=
  checked r.check <|
    .plain .delete (r.path k) readStatus

/-- Puts a backend into a director. -/
def createLink (r : LinkRef) : Prepared Resource.DirectorBackend :=
  checked r.check <|
    .plain .post r.path (readItem Resource.directorBackendSchema)

/-- Fetches the link of a backend and a director. -/
def getLink (r : LinkRef) : Prepared Resource.DirectorBackend :=
  checked r.check <|
    .plain .get r.path (readItem Resource.directorBackendSchema)

/-- Takes a backend out of a director. -/
def deleteLink (r : LinkRef) : Prepared Unit :=
  checked r.check <|
    .plain .delete r.path readStatus

end EdgeConsole.Api
