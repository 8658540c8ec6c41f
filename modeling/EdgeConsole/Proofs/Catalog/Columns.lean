import EdgeConsole.Catalog.Builtin
import EdgeConsole.Proofs.Resource.Catalogue
import EdgeConsole.Proofs.View.Cell

/-!
# Columns and fields

The columns of a kind's table and the fields of its items are described apart from each other, and
nothing but the spelling of a path ties the ones to the others. Here the descriptions are compared:
every column of every kind is spelled like a field of the type of its items, and as a path it is a
single step (`Kind.columns_agree`). A field is a member of whatever is written of an item, so every
column finds its member there, and what it shows is that member (`Kind.hasColumns_toJson`).
-/

namespace EdgeConsole.View

/-! ## Paths of one step -/

/-- A path that is the name of a member leads to that member. -/
theorem reaches_iff_of_steps {path : String} (h : steps path = [.member path]) {item v : Json} :
    Reaches (Text.pieces '.' path) item v ↔ item.member? path = some v := by
  rw [← follow?_map_ofText_eq_some_iff, ← steps_eq, h, follow?, Option.bind_eq_some_iff]
  constructor
  · rintro ⟨w, hw, hv⟩
    rwa [← Option.some.inj hv]
  · intro hv
    exact ⟨v, hv, rfl⟩

/-- The column of an item has the value: it is the member that the path names, the path leads to it,
and the column shows it. -/
structure HasCell (item : Json) (column : Column) (v : Json) : Prop where
  member : item.member? column.path = some v
  reaches : Reaches (Text.pieces '.' column.path) item v
  shown : cellAt column.path item = cell v
  dash_iff : cellAt column.path item = "-" ↔ v = .null ∨ v = .text "" ∨ v = .text "-"

theorem HasCell.of_member {item : Json} {column : Column} {v : Json}
    (h : steps column.path = [.member column.path]) (hv : item.member? column.path = some v) :
    HasCell item column v := by
  have hreaches := (reaches_iff_of_steps h).mpr hv
  have hshown := cellAt_of_reaches hreaches
  refine ⟨hv, hreaches, hshown, ?_⟩
  rw [hshown]
  exact cell_eq_dash_iff

end EdgeConsole.View

namespace EdgeConsole.Catalog

open Record (Row)
open Resource (ResourceType)

/-! ## The fields behind the columns -/

/-- The type of the items of a kind. -/
def Kind.itemType : Kind → ResourceType
  | .services => .service
  | .versions => .version
  | .tokens => .token
  | .users => .user
  | .versioned k => .versioned k

/-- Every column of a kind is a single step, and it is spelled like a field of the kind's items. -/
theorem Kind.columns_agree (k : Kind) :
    ∀ column ∈ k.definition.columns, View.steps column.path = [.member column.path] ∧
      ∃ f ∈ k.itemType.schema.fields, f.name = column.path := by
  cases k with
  | versioned k => cases k <;> decide +kernel
  | _ => decide +kernel

/-- The item has a value in every column of the kind. -/
def Kind.HasColumns (k : Kind) (item : Json) : Prop :=
  ∀ column ∈ k.definition.columns, ∃ v, View.HasCell item column v

/-- Whatever the values of an item are, it is written such that all columns have their values. -/
theorem Kind.hasColumns_toJson (k : Kind) (v : k.itemType.Value) : k.HasColumns v.toJson := by
  intro column hcolumn
  obtain ⟨hsteps, f, hf, hname⟩ := k.columns_agree column hcolumn
  obtain ⟨x, hx⟩ := (v.forall_member?_toJson k.itemType.distinct_schema).exists_value hf
  rw [hname] at hx
  exact ⟨_, .of_member hsteps hx⟩

end EdgeConsole.Catalog
