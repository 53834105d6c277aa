import ChartBoard.Datum.Display
import ChartBoard.Datum.Items

/-!
# Table schemas

The columns of the known tables with the labels of their types.

* `Schema.columnType` finds the type of a column, empty when it is not known.
* `Schema.Table.ofDatum` reads a description of a table.
-/

namespace ChartBoard.Schema

/-- A column and the label of its type. -/
structure Column where
  name : String
  type : String
deriving DecidableEq, Repr

/-- A table and its columns in order. -/
structure Table where
  name : String
  columns : List Column
deriving DecidableEq, Repr

/-- The first column of a name. -/
def Table.column? (t : Table) (name : String) : Option Column :=
  t.columns.find? fun c => c.name == name

/-- The names of the columns. -/
def Table.columnNames (t : Table) : List String := t.columns.map (·.name)

/-- The type of a column of the first table of a name; empty when either is not known. -/
def columnType (tables : List Table) (table column : String) : String :=
  match tables.find? fun t => t.name == table with
  | some t => ((t.column? column).map (·.type)).getD ""
  | none => ""

/-- The members of an object of which some are required. -/
def requireObject : Datum → Except Fault Record
  | .object members => .ok members
  | _ => .error .wrongKind

/-- The value of a required member. -/
def require (r : Record) (name : String) : Except Fault Datum :=
  match r.get? name with
  | some v => .ok v
  | none => .error (.noMember name)

/-- The column that a description spells. -/
def Column.ofDatum (v : Datum) : Except Fault Column := do
  let r ← requireObject v
  let name ← require r "name"
  return ⟨name.display, if (r.get "type").truthy then (r.get "type").display else ""⟩

/-- The table that a description spells. -/
def Table.ofDatum (v : Datum) : Except Fault Table :=
  match v with
  | .object r => do
    let columns ← (← (v.get "columns").itemsIfAny).mapM Column.ofDatum
    let name ← require r "name"
    return ⟨name.display, columns⟩
  | _ => .error .noOperation

/-- The description of a table. -/
def Table.toDatum (t : Table) : Datum :=
  .object [("name", .text t.name), ("columns", .list (t.columns.map fun c =>
    .object [("name", .text c.name), ("type", .text c.type)]))]

end ChartBoard.Schema
