import ChartBoard.Engine.Session
import ChartBoard.Figure.OfChart
import ChartBoard.Filtering.Matching
import ChartBoard.Widget.Chart

/-!
# Rendered widgets

From a data source to a figure.

* `generate` gives the statement, the rows and the chart, or ends in the fault that stands in the
  way.
* `render` always has a figure; what stands in the way is among its errors.
-/

namespace ChartBoard.Widget

open Engine (Session execute)

/-- A statement, its rows and their chart. -/
structure Generated where
  compiled : Compiled
  rows : List Record
  chart : Record

/-- Compiles a source, runs the statement and makes the chart of the rows.  No rows are a fault. -/
def generate (settings : Settings) (s : Source) (edges : List Relationship.Edge)
    (schemas : List Schema.Table) (theme : Option String) : Session Generated := do
  let compiled ← Task.ofExcept (s.compile settings edges schemas [])
  let rows ← execute compiled.sql
  if rows.isEmpty then throw (.misuse .noData)
  return ⟨compiled, rows, ← Task.ofExcept (s.chart settings.limits compiled theme rows)⟩

/-- A widget as it is shown. -/
structure Rendered where
  sql : String
  rows : List Record
  chart : Option Record
  figure : Figure
  errors : List String
  /-- The filters have left nothing to show. -/
  emptyFiltered : Bool

/-- The description of a rendered widget. -/
def Rendered.toRecord (r : Rendered) : Record :=
  [("sql", .text r.sql), ("rows", .list (r.rows.map .object)),
   ("chart_config", (r.chart.map Datum.object).getD .null), ("figure", .object r.figure.toRecord),
   ("errors", .texts r.errors), ("empty_filtered", .bool r.emptyFiltered),
   ("success", .bool r.errors.isEmpty)]

/-- How a widget is to be shown. -/
structure View where
  /-- The active filters, or why they cannot be read. -/
  filters : Except Fault (List Filtering.ActiveFilter) := .ok []
  theme : Figure.Theme := {}
  themeName : Option String := some "default"

/-- A widget without a chart, with what stands in its way.  Faults that are not for the user to
see are not held back. -/
def Rendered.failed (view : View) (sql : String) (rows : List Record) (fault : Fault) :
    Except Fault Rendered := do
  if !fault.isShown then .error fault
  return ⟨sql, rows, none, ← Figure.ofChart .null view.theme, [fault.message], false⟩

/-- The chart of a widget as the filters leave it.  Key figures are not filtered here. -/
def Source.filteredChart (s : Source) (view : View) (chart : Record) : Except Fault Record :=
  if s.kind == "kpi" then .ok chart
  else view.filters.map fun filters => Filtering.filtered filters s chart

/-- A widget with its chart. -/
def Rendered.ofChart (s : Source) (view : View) (sql : String) (rows : List Record)
    (chart : Record) : Except Fault Rendered := do
  let shown ← s.filteredChart view chart
  let figure ← Figure.ofChart (.object shown) view.theme
  return ⟨sql, rows, some shown, figure, [], (Record.get shown Figure.emptyMark).truthy⟩

/-- A widget with the chart of its rows. -/
def Rendered.ofRows (limits : Limits) (s : Source) (view : View) (compiled : Compiled)
    (rows : List Record) : Except Fault Rendered :=
  if rows.isEmpty then Rendered.failed view compiled.sql rows (.misuse .noData)
  else match s.chart limits compiled view.themeName rows with
    | .ok chart => Rendered.ofChart s view compiled.sql rows chart
    | .error fault => Rendered.failed view compiled.sql rows fault

/-- Compiles a source, runs the statement and shows the chart of the rows under the active
filters. -/
def render (settings : Settings) (s : Source) (edges : List Relationship.Edge)
    (schemas : List Schema.Table) (view : View) : Session Rendered := do
  match s.compile settings edges schemas [] with
  | .error fault => Task.ofExcept (Rendered.failed view "" [] fault)
  | .ok compiled =>
    match ← Task.attempt (execute compiled.sql) with
    | .error fault => Task.ofExcept (Rendered.failed view compiled.sql [] fault)
    | .ok rows => Task.ofExcept (Rendered.ofRows settings.limits s view compiled rows)

end ChartBoard.Widget
