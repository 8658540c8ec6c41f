import EdgeConsole.Json.Number

/-!
# JSON values

Values of any shape. The members of an object are kept in ascending order of their names by code
point, one member for each name; `ofMembers` builds such an object from members in the order they
were written, the last of several with one name winning.
-/

namespace EdgeConsole

/-- A JSON value. -/
inductive Json
  | null
  | bool (b : Bool)
  | number (n : Json.Number)
  | text (s : String)
  | list (items : List Json)
  | object (members : List (String × Json))
deriving Repr, Inhabited

namespace Json

/-- Puts a member at its place, replacing one of the same name. -/
def insertMember (name : String) (value : α) : List (String × α) → List (String × α)
  | [] => [(name, value)]
  | (k, v) :: rest =>
    if name < k then (name, value) :: (k, v) :: rest
    else if name = k then (name, value) :: rest
    else (k, v) :: insertMember name value rest

/-- The members in order of their names, the last of several with one name winning. -/
def sortMembers (members : List (String × α)) : List (String × α) :=
  members.foldl (fun sorted m => insertMember m.1 m.2 sorted) []

/-- The object with the given members. -/
def ofMembers (members : List (String × Json)) : Json :=
  .object (sortMembers members)

/-- A member of an object by name. -/
def member? (name : String) : Json → Option Json
  | .object members => (members.find? (·.1 == name)).map (·.2)
  | _ => none

/-- An item of a list by position. -/
def item? (index : Nat) : Json → Option Json
  | .list items => items[index]?
  | _ => none

end Json

end EdgeConsole
