import EdgeConsole.Record.Row
import EdgeConsole.View.Table

/-!
# Definitions of kinds

What a console knows about a kind of resource apart from its record: how it is called, what it is
addressed by, which actions it has, and the columns of its table. Definitions can be read from JSON,
one by one or as a map under their keys.

Main definitions: `Definition`, `Definition.ofText`, `readDefinitions`.
-/

namespace EdgeConsole.Catalog

open Json (Outline ReadError Key)
open Record (FieldSpec FieldKind FieldValue Row Schema)
open View (Column)

/-- What the items of a kind are addressed by. -/
inductive Scope
  /-- The account that a key belongs to. -/
  | account
  /-- A customer. -/
  | customer
  /-- A service. -/
  | service
  /-- A service and one of its versions. -/
  | versioned
deriving DecidableEq, Repr

/-- The name of a scope for people. -/
def Scope.label : Scope → String
  | .account => "Account"
  | .customer => "Customer"
  | .service => "Service"
  | .versioned => "Versioned"

/-- The scopes under the names by which definitions call them. -/
def Scope.named : List (String × Scope) :=
  [("account", .account), ("customer", .customer), ("service", .service), ("versioned", .versioned)]

/-- What can be done with the items of a kind. -/
inductive Action
  | list
  | get
  | delete
deriving DecidableEq, Repr

/-- The name of an action for people. -/
def Action.label : Action → String
  | .list => "List"
  | .get => "Get"
  | .delete => "Delete"

/-- The name of an action within a sentence. -/
def Action.word : Action → String
  | .list => "list"
  | .get => "get"
  | .delete => "delete"

/-- The actions under the names by which definitions call them. -/
def Action.named : List (String × Action) :=
  [("list", .list), ("get", .get), ("delete", .delete)]

/-- What is known about a kind. -/
structure Definition where
  displayName : String
  scope : Scope
  /-- The field that tells an item from the others. -/
  itemField : String
  actions : List Action
  columns : List Column
deriving DecidableEq, Repr

namespace Definition

/-- The kind has an action. -/
def supports (d : Definition) (a : Action) : Bool := d.actions.contains a

/-- How an item is spoken of. -/
def itemLabel (d : Definition) (value : String) : String := d.itemField ++ " " ++ value

end Definition

/-! ## Reading columns -/

/-- The kind of a field of a column. -/
inductive ColumnKind
  | text
  | width

instance : FieldKind ColumnKind where
  Val := fun
    | .text => String
    | .width => Nat
  default?
    | .text => none
    | .width => none
  read
    | .text, _ => (·.readText)
    | .width, _ => (·.readWord UInt16.size .word16)

/-- The description of a column. -/
def columnSchema : Schema ColumnKind :=
  ⟨"ColumnDef", [⟨"header", .text, false⟩, ⟨"json_path", .text, false⟩, ⟨"width", .width, false⟩]⟩

/-- Reads a column. -/
def readColumn (depth : Nat) (o : Outline) : Except ReadError Column := do
  match ← columnSchema.read depth o with
  | .cons header (.cons path (.cons width .nil)) => return ⟨header, path, width⟩

/-! ## Reading definitions -/

/-- The kind of a field of a definition. -/
inductive DefinitionKind
  | text (default? : Option String)
  | scope
  | actions
  | columns

instance : FieldKind DefinitionKind where
  Val := fun
    | .text _ => String
    | .scope => Scope
    | .actions => List Action
    | .columns => List Column
  default?
    | .text d => d
    | .scope => none
    | .actions => some []
    | .columns => none
  read
    | .text _, _ => (·.readText)
    | .scope, depth => (·.readVariant depth Scope.named)
    | .actions, depth => (·.readList depth fun depth o => o.readVariant depth Action.named)
    | .columns, depth => (·.readList depth readColumn)

/-- The description of a definition. -/
def definitionSchema : Schema DefinitionKind :=
  ⟨"ResourceDef",
    [⟨"display_name", .text none, false⟩, ⟨"scope", .scope, false⟩,
     ⟨"name_field", .text (some "name"), false⟩, ⟨"actions", .actions, false⟩,
     ⟨"columns", .columns, false⟩]⟩

/-- Reads a definition. -/
def readDefinition (depth : Nat) (o : Outline) : Except ReadError Definition := do
  match ← definitionSchema.read depth o with
  | .cons displayName (.cons scope (.cons itemField (.cons actions (.cons columns .nil)))) =>
    return { displayName, scope, itemField, actions, columns }

/-- Reads the text of a definition. -/
def Definition.ofText (text : String) : Except ReadError Definition :=
  Json.readText (readDefinition Json.depthLimit) text

/-! ## Reading maps of definitions -/

/-- Reads the members of a map in order. -/
def readEntries (depth : Nat) : List (Key × Outline) → Except ReadError (List (String × Definition))
  | [] => .ok []
  | (key, o) :: rest => do
    let name ← key.read
    let d ← readDefinition depth o
    let entries ← readEntries depth rest
    return (name, d) :: entries

/-- Reads a map of definitions, in ascending order of the keys; the last of several with one key
wins. -/
def readMap (depth : Nat) : Outline → Except ReadError (List (String × Definition))
  | .object members flaw =>
    match depth with
    | 0 => .error (.fault .malformed)
    | depth + 1 => do
      let entries ← readEntries depth members
      Json.checkEnd flaw
      return Json.sortMembers entries
  | o => o.mismatch .map

/-- The kind of the only field of a collection of definitions. -/
inductive CollectionKind
  | definitions

instance : FieldKind CollectionKind where
  Val := fun .definitions => List (String × Definition)
  default? := fun .definitions => some []
  read := fun .definitions => readMap

/-- The description of a collection of definitions. -/
def collectionSchema : Schema CollectionKind :=
  ⟨"ResourceConfig", [⟨"resources", .definitions, false⟩]⟩

/-- Reads the text of a collection of definitions. -/
def readDefinitions (text : String) : Except ReadError (List (String × Definition)) := do
  match ← collectionSchema.readText text with
  | .cons entries .nil => return entries

end EdgeConsole.Catalog
