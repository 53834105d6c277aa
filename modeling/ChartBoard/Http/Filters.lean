import ChartBoard.Filtering.Options
import ChartBoard.Http.Handler

/-!
# Requests about filters

* `listFilters` and `listOptions` show the active filters and the values to filter by.
* `selectValue` works on the draft, `applySelection` applies it.
* `clearFilters` clears one filter or all of them.
-/

namespace ChartBoard.Http

open Filtering Form

/-- The active filters and the number of changes so far. -/
def storeRecord (s : Store) : Record :=
  [("version", .int s.version), ("filters", .list (s.filters.map (·.toDatum)))]

/-- The active filters. -/
def listFilters : Handler Datum := do return .object (storeRecord (← get).panel.store)

/-- The values of a column under the filters on other columns. -/
def listOptions (settings : Settings) (q : Request) : Handler Datum := do
  let (table, column) ← parametersAs (fun r =>
    .and Prod.mk (required r (.ofName "table") text) (required r (.ofName "column") text)) q
  let filters := (← get).filters
  let values ← reported do
    let tables ← Board.schemas settings
    Board.session (options settings table column filters .null tables)
  return .object [("table", .text table), ("column", .text column), ("values", .list values)]

/-- Changes the panel. -/
def changePanel (f : Panel → Panel) : Handler Unit := modify fun b => { b with panel := f b.panel }

/-- Toggles a value in the draft. -/
def selectValue (body : Body) : Handler Datum := do
  let f ← bodyAs ClickForm.read body
  changePanel (·.select f.widget f.table f.column f.value f.options)
  let p := (← get).panel
  return .object [("draft", (p.draft.map fun d => .object d.toRecord).getD .null),
    ("pending", .bool p.hasPendingChanges)]

/-- Applies the draft. -/
def applySelection : Handler Datum := do
  let changed := (← get).panel.changes
  changePanel (·.apply)
  return .object (("changed", .bool changed) :: storeRecord (← get).panel.store)

/-- The store without one filter, or without any unless both a table and a column are named. -/
def cleared (table column : Option String) (s : Store) : Store :=
  match table.filter (!·.isEmpty), column.filter (!·.isEmpty) with
  | some table, some column => s.erase table column
  | _, _ => s.clear

/-- Clears one filter or all of them, and the draft. -/
def clearFilters (q : Request) : Handler Datum := do
  let (table, column) ← parametersAs (fun r =>
    .and Prod.mk (withDefault r (.ofName "table") none (nullable text))
      (withDefault r (.ofName "column") none (nullable text))) q
  changePanel fun p => Panel.discard { p with store := cleared table column p.store }
  listFilters

end ChartBoard.Http
