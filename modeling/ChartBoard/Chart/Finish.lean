import ChartBoard.Chart.SeriesAlias
import ChartBoard.Chart.Theme
import ChartBoard.Datum.Parts
import ChartBoard.Settings

/-!
# Finished charts

* `dressed` gives a chart its theme, the new names of its series and the visibility of its legend.
* `finished` does so with a copy of the chart.
-/

namespace ChartBoard.Chart

/-- The chart with its legend shown or hidden. -/
def withLegend (shown : Datum) (chart : Record) : Record :=
  Record.set chart "legend" (.object (Record.set (Record.get chart "legend").members "show" shown))

/-- The chart with its theme, the new names and its legend.  Null leaves open whether that is
shown. -/
def dressed (theme : Option String) (colors : List Datum) (names : Record) (showLegend : Datum)
    (chart : Record) : Record :=
  let named := renamed names (themed theme colors chart)
  if showLegend.isNull then named else withLegend showLegend named

/-- The finished chart. -/
def finished (limits : Limits) (theme : Option String) (colors : List Datum) (names : Record)
    (showLegend : Datum) (chart : Record) : Except Fault Record := do
  return dressed theme colors names showLegend (← Record.copied limits.copying chart)

end ChartBoard.Chart
