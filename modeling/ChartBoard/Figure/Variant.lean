import ChartBoard.Figure.OfChart

/-!
# Charts by variant

A chart with its data in typed form, one variant for each kind.

* `Variant.ofChart?` gives the variant of a description, unless it has only a placeholder.
* `Variant.toRecord` describes it.
-/

namespace ChartBoard.Figure

/-- A chart in typed form. -/
inductive Variant where
  | axis (curved : Bool) (title : String) (categories : List String)
      (series : List (String × List Float)) (xTitle yTitle : String)
  | pie (title : String) (slices : List (String × Float))
  | radar (title : String) (indicators : List String) (series : List (String × List Float))
  | scatter (title : String) (series : List Cloud)
  | keyFigure (label : String) (value : Float) (previous change : Option Float)
      (thresholds window : Datum)

/-- A line with its empty amounts read as zero. -/
def Line.named (l : Line) : String × List Float := (l.name, l.values.map Chart.Amount.toFloat)

/-- The variant of a figure. -/
def Variant.ofFigure (f : Figure) : Variant :=
  let title := f.title.label
  match f.content with
  | .axis curved categories lines x y => .axis curved title categories (lines.map Line.named) x y
  | .pie labels values => .pie title (labels.zip (values.map Chart.Amount.toFloat))
  | .radar labels lines => .radar title labels (lines.map Line.named)
  | .scatter clouds _ _ => .scatter title clouds

/-- The number that a value means, if it is not null. -/
def knownNumber (v : Datum) : Except Fault (Option Float) :=
  if v.isNull then .ok none else v.number.map some

/-- The variant of a key figure. -/
def Variant.ofKeyFigure (kpi : Record) : Except Fault Variant := do
  let value ← (Record.get kpi "value").number
  let previous ← knownNumber (Record.get kpi "previous")
  let change ← knownNumber (Record.get kpi "deltaPct")
  return .keyFigure (Record.get kpi "label").label value previous change
    (Record.get kpi "thresholds") (Record.get kpi "window")

/-- The variant of a chart, unless it has only a placeholder. -/
def Variant.ofChart? (chart : Datum) : Except Fault (Option Variant) :=
  match chart.get "kpi" with
  | .object kpi => (Variant.ofKeyFigure kpi).map some
  | _ => do
    let figure ← ofChart chart {}
    return if figure.fallback then none else some (.ofFigure figure)

/-! ## Description -/

/-- The description of a named row of numbers. -/
def namedDatum (line : String × List Float) : Datum :=
  .object [("name", .text line.1), ("data", .list (line.2.map .float))]

/-- The description of a number that may be unknown. -/
def floatOrNull : Option Float → Datum
  | some x => .float x
  | none => .null

/-- The description of a variant. -/
def Variant.toRecord : Variant → Record
  | axis curved title categories series x y =>
    [("type", .text (if curved then "line" else "bar")), ("title", .text title),
     ("categories", .texts categories), ("series", .list (series.map namedDatum)),
     ("x_title", .text x), ("y_title", .text y)]
  | pie title slices =>
    [("type", .text "pie"), ("title", .text title), ("slices", .list (slices.map fun (name, x) =>
      .object [("name", .text name), ("value", .float x)]))]
  | radar title indicators series =>
    [("type", .text "radar"), ("title", .text title), ("indicators", .texts indicators),
     ("series", .list (series.map namedDatum))]
  | scatter title clouds =>
    [("type", .text "scatter"), ("title", .text title), ("series", .list (clouds.map fun c =>
      .object [("name", .text c.name), ("points", .list (c.points.map Point.toDatum))]))]
  | keyFigure label value previous change thresholds window =>
    [("type", .text "kpi"), ("label", .text label), ("value", .float value),
     ("previous", floatOrNull previous), ("delta_pct", floatOrNull change),
     ("thresholds", thresholds), ("window", window)]

end ChartBoard.Figure
