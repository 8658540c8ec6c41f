import EdgeConsole.View.Table
import EdgeConsole.Yaml.Print
import EdgeConsole.Catalog.Definition

/-!
# Rendering

A result is shown as a table, as JSON or as YAML. Only a list or an object of a known kind makes a
table; anything else is shown as YAML where a table is asked for.
-/

namespace EdgeConsole.View

open Catalog (Definition)

/-- The form in which a result is shown. -/
inductive Format
  | table
  | json
  | yaml
deriving DecidableEq, Repr

/-- The table of a kind. -/
def definitionTable (d : Definition) (items : List Json) : String :=
  table d.displayName d.columns items

/-- A value in the form that is asked for. -/
def render (format : Format) (definition? : Option Definition) (v : Json) : String :=
  match format, definition?, v with
  | .json, _, v => v.pretty
  | .yaml, _, v => Yaml.print v
  | .table, some d, .list items => definitionTable d items
  | .table, some d, .object members => definitionTable d [.object members]
  | .table, _, v => Yaml.print v

end EdgeConsole.View
