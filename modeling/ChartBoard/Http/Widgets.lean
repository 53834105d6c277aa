import ChartBoard.Chart.Repair
import ChartBoard.Http.Handler
import ChartBoard.Widget.Rendered

/-!
# Requests about widgets

* `compileWidget` gives the statement of a widget, `renderWidget` the whole widget.
* `drawFigure` draws any chart, `recomputeKeyFigure` computes a key figure under the filters.
-/

namespace ChartBoard.Http

/-- The statement of a widget; nothing is asked of the engine but its catalog. -/
def compileWidget (settings : Settings) (body : Body) : Handler Datum := do
  let f ← bodyAs WidgetForm.read body
  let edges := (← get).edges
  let compiled ← reported do
    let tables ← Board.schemas settings
    Task.ofExcept (f.source.compile settings edges tables [])
  return .object compiled.toRecord

/-- A widget as it is shown. -/
def renderWidget (settings : Settings) (body : Body) : Handler Datum := do
  let f ← bodyAs WidgetForm.read body
  let tables ← reported (Board.schemas settings)
  let b ← get
  let view : Widget.View :=
    { filters := .ok (if f.usesFilters then b.filters else [])
      theme := { dark := f.dark }
      themeName := f.themeName }
  let shown ← guarded (Board.session (Widget.render settings f.source b.edges tables view))
  return .object shown.toRecord

/-- The figure of any chart. -/
def drawFigure (settings : Settings) (body : Body) : Handler Datum := do
  let f ← bodyAs FigureForm.read body
  let figure ← guarded (Task.ofExcept do
    let chart ← Chart.repaired settings f.chart f.rowsDatum
    Figure.ofChart ((chart.map Datum.object).getD .null) { dark := f.dark })
  return .object figure.toRecord

/-- A key figure under the active filters, null when none of them concerns it. -/
def recomputeKeyFigure (settings : Settings) (body : Body) : Handler Datum := do
  let f ← bodyAs KeyFigureForm.read body
  let tables ← reported (Board.schemas settings)
  let b ← get
  let q : Kpi.Request :=
    ⟨f.widget, f.source, .ok b.filters, b.edges, tables, .object (f.base.getD [])⟩
  let found ← guarded (Board.recomputation (Kpi.recompute settings id q))
  return .object [("widget_id", .text f.widget), ("kpi", (found.map Datum.object).getD .null)]

end ChartBoard.Http
