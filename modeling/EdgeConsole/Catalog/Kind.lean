import EdgeConsole.Resource.Versioned

/-!
# Kinds of items

The kinds that a user can ask for by key: services, versions, tokens, users, and the kinds that
belong to a version.
-/

namespace EdgeConsole.Catalog

open Resource (VersionedKind)

/-- A kind of items. -/
inductive Kind
  | services
  | versions
  | tokens
  | users
  | versioned (k : VersionedKind)
deriving DecidableEq, Repr

namespace Kind

/-- The key by which a user asks for the kind. -/
def key : Kind → String
  | .services => "services"
  | .versions => "versions"
  | .tokens => "tokens"
  | .users => "users"
  | .versioned k => k.key

/-- All kinds, in the order of their keys. -/
def all : List Kind :=
  VersionedKind.all.map .versioned ++ [.services, .tokens, .users, .versions]

/-- The kind that a key asks for. -/
def ofKey? (key : String) : Option Kind :=
  all.find? (·.key == key)

end Kind

end EdgeConsole.Catalog
