import ChartBoard.Chart.Finish
import ChartBoard.Chart.KeyFigure
import ChartBoard.Chart.Spec
import ChartBoard.Widget.Compiled

/-!
# Charts of widgets

The rows that answer a compiled widget, as a chart.

* `Source.chart` is the chart, `Source.request` says how it is made of the rows.
-/

namespace ChartBoard.Widget

namespace Source

/-- The description of the windows of a key figure, null without a time column. -/
def windowDatum (s : Source) : Datum :=
  match s.options.kpiTimeColumn with
  | some time =>
    if time.isEmpty then .null
    else .object [("value", integerOrNull s.options.kpiWindowLength),
      ("unit", .ofText? s.options.kpiWindowUnit), ("column", .text time)]
  | none => .null

/-- The label of a key figure. -/
def kpiLabel (s : Source) : String := (trimmed? s.options.kpiLegend).getD (s.yFields.headD "")

/-- The key figure in the first row. -/
def keyFigure (s : Source) (rows : List Record) : Except Fault Record :=
  Chart.keyFigure (rows.headD []) (.text s.kpiLabel) s.options.kpiThresholds s.windowDatum

/-- How the chart is made of the rows. -/
def request (s : Source) (c : Compiled) : Chart.Request where
  kind := c.kind
  xField := c.xAlias.getD ""
  yFields := c.yAliases
  seriesBy := c.seriesAlias
  timeField := if c.temporalX && c.kind != "scatter" then c.xAlias else none
  granularity := s.granularity
  titles :=
    { chart := .ofText? (trimmed? s.options.chartTitle)
      xAxis := .ofText? (trimmed? s.options.xAxisLabel)
      yAxis := .ofText? (trimmed? s.options.yAxisLabel) }

/-- The new names of the series. -/
def aliases (s : Source) : Chart.Aliases :=
  match s.options.seriesAliases with
  | some (.lines text) => Chart.aliasesOfText text
  | some (.byName names) => Chart.aliasesOfPairs names
  | none => []

/-- Whether the legend is to be shown, null when that is left open. -/
def legendDatum (s : Source) : Datum := (s.options.showLegend.map Datum.bool).getD .null

/-- The chart of the rows. -/
def chart (limits : Limits) (s : Source) (c : Compiled) (theme : Option String)
    (rows : List Record) : Except Fault Record :=
  if c.kind == "kpi" then s.keyFigure rows
  else do
    let spec ← (s.request c).spec rows
    Chart.finished limits theme [] (Chart.newNames s.aliases) s.legendDatum spec.toRecord

end Source

end ChartBoard.Widget
