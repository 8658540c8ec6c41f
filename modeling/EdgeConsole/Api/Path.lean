import EdgeConsole.Web.Percent

/-!
# Paths of the API

Where things stand below the endpoint: a service, a version of it, the resources of a kind in that
version, and one of them by name. Every identifier is one escaped segment; the path of a kind is
taken as it is.
-/

namespace EdgeConsole.Api

open Web (escape)

/-- The path of a service. -/
def servicePath (service : String) : String := "/service/" ++ escape service

/-- The path of the versions of a service. -/
def versionsPath (service : String) : String := servicePath service ++ "/version"

/-- The path of a version. -/
def versionPath (service : String) (version : UInt32) : String :=
  versionsPath service ++ "/" ++ toString version.toNat

/-- The path of the resources of a kind in a version. -/
def collectionPath (service : String) (version : UInt32) (segment : String) : String :=
  versionPath service version ++ "/" ++ segment

/-- The path of a resource in a version. -/
def itemPath (service : String) (version : UInt32) (segment name : String) : String :=
  collectionPath service version segment ++ "/" ++ escape name

/-- The path of the membership of a backend in a director. -/
def linkPath (service : String) (version : UInt32) (director backend : String) : String :=
  itemPath service version "director" director ++ "/backend/" ++ escape backend

/-- The path of a token. -/
def tokenPath (id : String) : String := "/tokens/" ++ escape id

/-- The path of a user. -/
def userPath (id : String) : String := "/user/" ++ escape id

/-- The path of what belongs to a customer. -/
def customerPath (customer collection : String) : String :=
  "/customer/" ++ escape customer ++ "/" ++ collection

end EdgeConsole.Api
