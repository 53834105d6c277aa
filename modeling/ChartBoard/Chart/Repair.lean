import ChartBoard.Chart.FromRows
import ChartBoard.Datum.Parts
import ChartBoard.Text.Case

/-!
# Repairing charts

Free-form descriptions of charts, brought to the form in which they can be drawn: a list of series,
each with a kind, a name and a list of points.  Points may come as objects, and a whole chart as
labels with datasets.

* `isDrawable` is true of charts with a point to draw.
* `mended` gives the chart in that form.  What cannot be drawn gives way to a chart of fallback
  rows, if there are any.
* `repaired` does so with a copy of the chart, whatever value stands for it.
-/

namespace ChartBoard.Chart

/-- True of a series with points. -/
def hasPoints (serie : Datum) : Bool :=
  match serie.get "data" with
  | .list points => !points.isEmpty
  | _ => false

/-- True when a chart has a series with points. -/
def isDrawable (chart : Datum) : Bool :=
  match chart.get "series" with
  | .list series => series.any hasPoints
  | _ => false

/-! ## Labels with datasets -/

/-- The name of what stands at a position when it has none of its own. -/
def nameOrNumber (v : Datum) (word : String) (position : Nat) : String :=
  if v.label.isEmpty then word ++ " " ++ toString (position + 1) else v.label

/-- The series that a dataset means. -/
def serieOfDataset (kind : String) (dataset : Datum) (position : Nat) : Datum :=
  .object [("type", .text kind),
    ("name", .text (nameOrNumber (dataset.get "label") "Series" position)),
    ("data", .list ((dataset.get "data").asList?.getD []))]

/-- The chart that labels and datasets mean. -/
def chartOfDatasets (chart : Record) (labels datasets : List Datum) : Record :=
  let kind := Text.lower ((Record.get chart "type").orElse (.text "bar")).label
  [("title", (Record.get chart "title").orElse (.object [("text", generatedTitle)])),
   ("xAxis", .object [("data", .texts (labels.map Datum.label))]),
   ("yAxis", .object [("name", .text "Values")]),
   ("series", .list (datasets.zipIdx.map fun (d, i) => serieOfDataset kind d i))]

/-- The chart with labels and datasets, if it has both, turned into series. -/
def withoutDatasets (chart : Record) : Record :=
  let data := Record.get chart "data"
  match data.get "datasets", data.get "labels" with
  | .list datasets, .list labels => chartOfDatasets chart labels datasets
  | _, _ => chart

/-! ## Points -/

/-- The label of a point by one of its members; points without one are numbered. -/
def pointLabel (member : String) (point : Datum) (position : Nat) : String :=
  let v := point.get member
  if v.isNull then "Item " ++ toString (position + 1) else v.label

/-- The members of points that hold their label and their value, as told by the first point. -/
def pointMembers? (first : Record) : Option (String × String) :=
  if Record.has first "value" || Record.has first "name" then some ("name", "value")
  else if Record.has first "y" || Record.has first "x" then some ("x", "y")
  else none

/-- Points given as objects, as labels and plain values.  Other points have no labels. -/
def plainPoints (points : List Datum) : Except Fault (Option (List String) × List Datum) :=
  match points with
  | .object first :: _ =>
    match pointMembers? first with
    | some (label, value) => do
      let values ← points.mapM fun p => (p.get value).numberOrZero
      return (some (points.zipIdx.map fun (p, i) => pointLabel label p i), values)
    | none => .ok (none, points)
  | _ => .ok (none, points)

/-- The name of the slice at a position. -/
def sliceName (labels : List String) (position : Nat) : String :=
  match labels[position]? with
  | some s => if s.isEmpty then "Item " ++ toString (position + 1) else s
  | none => "Item " ++ toString (position + 1)

/-- The slices that plain values make. -/
def slicesOf (labels : List String) (points : List Datum) : Except Fault (List Datum) :=
  points.zipIdx.mapM fun (v, i) => do
    return .object [("name", .text (sliceName labels i)), ("value", ← v.numberOrZero)]

/-! ## Series -/

/-- The labels of an axis, if it lists them. -/
def axisLabels? (axis : Datum) : Option (List String) :=
  (axis.get "data").asList?.map fun labels => labels.map Datum.label

/-- The kind of a series: its own, else that of the chart, else bars. -/
def serieKind (chart : Record) (serie : Record) : String :=
  let named := (Record.get serie "type").orElse (Record.get chart "type")
  Text.lower (named.orElse (.text "bar")).label

/-- The points of a series with its labels: those of the points, else those inferred so far.  The
rows of a radar chart stay as they are. -/
def seriePoints (kind : String) (axis : Option (List String)) (inferred : List String)
    (points : List Datum) : Except Fault (List String × List Datum) := do
  let (found, values) ← if kind == "radar" then .ok (none, points) else plainPoints points
  let labels := found.getD inferred
  if kind == "pie" && !(values.headD .null).isObject then
    return (labels, ← slicesOf (axis.getD labels) values)
  else return (labels, values)

/-- A series in the form in which it can be drawn, and the labels inferred so far. -/
def repairedSerie (chart : Record) (axis : Option (List String)) (inferred : List String)
    (position : Nat) (v : Datum) : Except Fault (List String × Datum) := do
  let serie := v.members
  let kind := serieKind chart serie
  let (labels, points) ←
    seriePoints kind axis inferred ((Record.get serie "data").asList?.getD [])
  return (labels, .object (Record.merge serie [("type", .text kind),
    ("name", .text (nameOrNumber (Record.get serie "name") "Series" position)),
    ("data", .list points)]))

/-- The series from a position on, and the labels that their points carry. -/
def repairedSeries (chart : Record) (axis : Option (List String)) :
    (inferred : List String) → (position : Nat) → List Datum →
    Except Fault (List String × List Datum)
  | inferred, _, [] => .ok (inferred, [])
  | inferred, i, v :: rest => do
    let (inferred, serie) ← repairedSerie chart axis inferred i v
    let (inferred, series) ← repairedSeries chart axis inferred (i + 1) rest
    return (inferred, serie :: series)

/-! ## Charts -/

/-- The chart with the labels of its points on the X axis, unless that lists labels already. -/
def withAxisLabels (labels : List String) (chart : Record) : Record :=
  let axis := Record.get chart "xAxis"
  if (axis.get "data").asList?.isSome || labels.isEmpty then chart
  else Record.set chart "xAxis" (.object (Record.set axis.members "data" (.texts labels)))

/-- The series of a chart, of which a single one need not be in a list. -/
def seriesOf? (chart : Record) : Option (List Datum) :=
  match Record.get chart "series" with
  | .list series => some series
  | .object serie => some [.object serie]
  | _ => none

/-- The chart of the fallback rows. -/
def fallbackChart (settings : Settings) (rows : Datum) : Except Fault (Option Record) :=
  chartOfRows settings generatedTitle rows

/-- The chart with its series in the form in which they can be drawn. -/
def withRepairedSeries (chart : Record) (series : List Datum) : Except Fault Record := do
  let axis := axisLabels? (Record.get chart "xAxis")
  let (labels, series) ← repairedSeries chart axis [] 0 series
  return withAxisLabels labels (Record.set chart "series" (.list series))

/-- The chart in the form in which it can be drawn.  Key figures are left alone. -/
def mended (settings : Settings) (chart : Record) (rows : Datum) : Except Fault (Option Record) :=
  if (Record.get chart "kpi").isObject then .ok (some chart)
  else
    let chart := withoutDatasets chart
    match seriesOf? chart with
    | none => fallbackChart settings rows
    | some series => do
      let result ← withRepairedSeries chart series
      if isDrawable (.object result) then return some result else fallbackChart settings rows

/-- What a value means as a chart, in the form in which it can be drawn.  Only objects are charts. -/
def repaired (settings : Settings) (raw rows : Datum) : Except Fault (Option Record) :=
  match raw with
  | .object chart => do mended settings (← Record.copied settings.limits.copying chart) rows
  | _ => fallbackChart settings rows

end ChartBoard.Chart
