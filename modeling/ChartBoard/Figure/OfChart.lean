import ChartBoard.Chart.Repair
import ChartBoard.Figure.Basic

/-!
# Figures of charts

Every description of a chart, well formed or not, has a figure; where there is nothing to draw, it
is a placeholder.

* `ofChart` is the figure of a description.
* `placeholder` is the figure with a single empty bar.
-/

namespace ChartBoard.Figure

open Chart (Amount)

/-! ## Titles, colours and look -/

/-- The kinds of figure that a chart can ask for. -/
inductive Kind where
  | bar
  | line
  | pie
  | radar
  | scatter
deriving DecidableEq, Repr

/-- The kind that a word names; bars for words that are not known. -/
def Kind.ofName (s : String) : Kind :=
  if s == "pie" then pie else if s == "radar" then radar else if s == "scatter" then scatter
  else if s == "line" then line else bar

/-- The title of a chart. -/
def titleOf (chart : Datum) : String :=
  match chart.get "title" with
  | .object title => (Record.get title "text").label
  | v => v.label

/-- The title of an axis. -/
def axisTitle (chart : Datum) (axis : String) : String := ((chart.get axis).get "name").label

/-- True of the value false alone. -/
def isFalse : Datum → Bool
  | .bool false => true
  | _ => false

/-- The look of a chart as a figure of some kind. -/
def lookOf (chart : Datum) (kind : Kind) (theme : Theme) : Look :=
  let style := chart.get "style"
  { dark := theme.dark
    dataLabels := match style.get "showDataLabels" with
      | .bool b => b
      | _ => kind == .pie || kind == .radar
    grid := !isFalse (style.get "showGrid")
    smooth := kind == .line && !isFalse (style.get "smoothLines")
    legend := !isFalse ((chart.get "legend").get "show")
    sharedTooltip := kind == .bar || kind == .line }

/-- The colours of a chart, else those of the theme. -/
def colorsOf (chart : Datum) (theme : Theme) : List Datum :=
  match chart.get "color" with
  | .list (c :: rest) => (c :: rest).map fun c => .text c.label
  | _ => theme.palette

/-- The figure of some content of a chart. -/
def framed (chart : Datum) (theme : Theme) (kind : Kind) (content : Content) (fallback : Bool) :
    Figure :=
  ⟨content, .text (titleOf chart), colorsOf chart theme, lookOf chart kind theme, fallback⟩

/-- What stands where there is nothing to show. -/
def noDataLabel : String := "No data"

/-- The figure with a single empty bar. -/
def placeholder (title : Datum) (theme : Theme) : Figure :=
  ⟨.axis false [noDataLabel] [⟨"Value", [none]⟩] "" "", title, theme.palette,
    lookOf .null .bar theme, true⟩

/-! ## Content by kind -/

/-- The series of a chart. -/
def seriesOf (chart : Datum) : List Datum :=
  ((chart.get "series").asList?.getD []).filter Datum.isObject

/-- The list under a member, empty when there is none. -/
def itemsIn (v : Datum) (name : String) : List Datum := (v.get name).asList?.getD []

/-- The name of a series, or its number. -/
def serieName (serie : Datum) (position : Nat) : String :=
  Chart.nameOrNumber (serie.get "name") "Series" position

/-- The numbers in a list. -/
def numbersOf (values : List Datum) : Except Fault (List Float) := values.mapM Datum.number

/-- A series as a named row of the numbers under one of its members. -/
def lineOf (member : String) (serie : Datum) (position : Nat) : Except Fault Line := do
  return ⟨serieName serie position, (← numbersOf (itemsIn serie member)).map some⟩

/-- The sum of the points of a series; zero when it has no list of them. -/
def serieTotal (serie : Datum) : Except Fault Amount :=
  match serie.get "data" with
  | .list points => (numbersOf points).map Chart.total
  | _ => .ok (some 0.0)

/-- A pie of the slices of the first series; of series without slices, the sum of each; else an
empty slice in place of a pie. -/
def pieOf (chart : Datum) (theme : Theme) : Except Fault Figure :=
  let series := seriesOf chart
  match (series.head?.map fun s => itemsIn s "data").getD [] with
  | .object first :: rest => do
    let slices := .object first :: rest
    let values ← numbersOf (slices.map fun s => s.get "value")
    return framed chart theme .pie
      (.pie (slices.map fun s => (s.get "name").label) (values.map some)) false
  | _ =>
    if 1 < series.length then do
      let values ← series.mapM serieTotal
      return framed chart theme .pie
        (.pie (series.zipIdx.map fun (s, i) => serieName s i) values) false
    else .ok (framed chart theme .pie (.pie [noDataLabel] [some 0.0]) true)

/-- The label of an indicator. -/
def indicatorLabel (v : Datum) : String :=
  match v with
  | .object members => (Record.get members "name").label
  | v => v.label

/-- A radar chart of the rows of the first series. -/
def radarOf (chart : Datum) (theme : Theme) : Except Fault Figure := do
  let labels := (itemsIn (chart.get "radar") "indicator").map indicatorLabel
  let rows := ((seriesOf chart).head?.map fun s => itemsIn s "data").getD []
  let lines ← (rows.filter Datum.isObject).zipIdx.mapM fun (row, i) => lineOf "value" row i
  return framed chart theme .radar (.radar labels lines) false

/-- A point of a scatter chart: a pair of numbers, or a number over the label at its position. -/
def pointOf (labels : List Datum) (position : Nat) (v : Datum) : Except Fault Point :=
  match v with
  | .list coordinates => do
    let x ← (coordinates.getD 0 .null).number
    let y ← (coordinates.getD 1 .null).number
    return ⟨.at x, y⟩
  | v => do
    let label := labels.getD position (.int (position + 1))
    return ⟨.named label.label, ← v.number⟩

/-- A scatter chart of all series. -/
def scatterOf (chart : Datum) (theme : Theme) : Except Fault Figure := do
  let labels := itemsIn (chart.get "xAxis") "data"
  let clouds ← (seriesOf chart).zipIdx.mapM fun (serie, i) => do
    let points ← (itemsIn serie "data").zipIdx.mapM fun (v, j) => pointOf labels j v
    return Cloud.mk (serieName serie i) points
  return framed chart theme .scatter
    (.scatter clouds (axisTitle chart "xAxis") (axisTitle chart "yAxis")) false

/-- Bars or lines of all series. -/
def axisOf (chart : Datum) (curved : Bool) (theme : Theme) : Except Fault Figure := do
  let categories := (itemsIn (chart.get "xAxis") "data").map Datum.label
  let lines ← (seriesOf chart).zipIdx.mapM fun (serie, i) => lineOf "data" serie i
  return framed chart theme (if curved then .line else .bar)
    (.axis curved categories lines (axisTitle chart "xAxis") (axisTitle chart "yAxis")) false

/-! ## Figures -/

/-- The kind of the chart as a whole, in lower case. -/
def chartType (chart : Datum) : String := Text.lower ((chart.get "chart").get "type").label

/-- The slices of a pie given as a bare list of numbers. -/
def barePie? (chart : Datum) : Option (List Datum) :=
  match chart.get "series" with
  | .list (v :: rest) =>
    if chartType chart == "pie" && v.isNumber then some (v :: rest) else none
  | _ => none

/-- A pie given as a bare list of numbers. -/
def barePieOf (chart : Datum) (values : List Datum) (theme : Theme) : Except Fault Figure := do
  let labels := match chart.get "labels" with
    | .list labels => labels.map Datum.label
    | _ => values.zipIdx.map fun (_, i) => "Series " ++ toString (i + 1)
  return framed chart theme .pie (.pie labels ((← numbersOf values).map some)) false

/-- The kind of a chart: that of its first series, else that of the chart as a whole. -/
def kindOf (chart : Datum) : Kind :=
  let first := Text.lower (((seriesOf chart).head?.map fun s => (s.get "type").label).getD "")
  .ofName (if first.isEmpty then chartType chart else first)

/-- The figure of a chart that can be drawn. -/
def drawn (chart : Datum) (theme : Theme) : Except Fault Figure :=
  match kindOf chart with
  | .pie => pieOf chart theme
  | .radar => radarOf chart theme
  | .scatter => scatterOf chart theme
  | .line => axisOf chart true theme
  | .bar => axisOf chart false theme

/-- The mark of a chart that a filter has left without points. -/
def emptyMark : String := "__emptyFiltered"

/-- The title of the placeholder of a chart that is not to be drawn. -/
def undrawn? (chart : Datum) : Option String :=
  if chart.members.isEmpty then some "No configuration"
  else if (chart.get "kpi").truthy then some "KPI"
  else if (chart.get emptyMark).truthy then some "No data for current filter"
  else none

/-- The figure of a chart. -/
def ofChart (chart : Datum) (theme : Theme) : Except Fault Figure :=
  match undrawn? chart with
  | some title => .ok (placeholder (.text title) theme)
  | none =>
    match barePie? chart with
    | some values => barePieOf chart values theme
    | none =>
      if Chart.isDrawable chart then drawn chart theme
      else
        let title := titleOf chart
        .ok (placeholder (.text (if title.isEmpty then noDataLabel else title)) theme)

end ChartBoard.Figure
