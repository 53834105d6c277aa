import ChartBoard.Chart.Amount
import ChartBoard.Datum.Unique
import ChartBoard.Text.Case

/-!
# Specifications of charts

What a chart shows, by kind of chart, and how it is made from rows.

* `Request.spec` turns rows into the specification of a chart.
* `Spec.toRecord` is its description in the interchange format.
-/

namespace ChartBoard.Chart

/-- A named row of amounts, one for each category. -/
structure Series where
  name : Datum
  amounts : List Amount

/-- A slice of a pie. -/
structure Slice where
  name : String
  amount : Amount

/-- What a chart shows. -/
inductive Plot where
  /-- One series or several over categories; `kind` says how they are drawn. -/
  | axis (kind : String) (categories : List String) (xName yName : Datum) (series : List Series)
  | pie (name : Datum) (slices : List Slice)
  /-- Indicators, and by name a value for each of them. -/
  | radar (indicators : List String) (shapes : List (String × List Float))
  /-- Points by name. -/
  | scatter (xName yName : Datum) (clouds : List (String × List (Float × Float)))

/-- A chart and its title. -/
structure Spec where
  title : Datum
  plot : Plot

/-! ## Description -/

/-- The description of a title. -/
def titleDatum (title : Datum) : Datum := .object [("text", title)]

/-- The description of a series. -/
def Series.toDatum (kind : String) (s : Series) : Datum :=
  .object [("name", s.name), ("type", .text kind), ("smooth", .bool (kind == "line")),
    ("data", .list (s.amounts.map Amount.toDatum))]

/-- The description of a slice. -/
def Slice.toDatum (s : Slice) : Datum :=
  .object [("name", .text s.name), ("value", s.amount.toDatum)]

/-- A name and numbers under it. -/
def shapeDatum (shape : String × List Float) : Datum :=
  .object [("name", .text shape.1), ("value", .list (shape.2.map .float))]

/-- A series of points. -/
def cloudDatum (cloud : String × List (Float × Float)) : Datum :=
  .object [("name", .text cloud.1), ("type", .text "scatter"),
    ("data", .list (cloud.2.map fun (x, y) => .list [.float x, .float y]))]

/-- The description of what a chart shows. -/
def Plot.toRecord : Plot → Record
  | axis kind categories xName yName series =>
    [("xAxis", .object [("type", .text "category"), ("data", .texts categories), ("name", xName)]),
     ("yAxis", .object [("type", .text "value"), ("name", yName)]),
     ("legend", .object [("data", .list (series.map (·.name)))]),
     ("series", .list (series.map (·.toDatum kind)))]
  | pie name slices =>
    [("series", .list [.object [("name", name), ("type", .text "pie"),
      ("data", .list (slices.map Slice.toDatum))]])]
  | radar indicators shapes =>
    [("radar", .object
       [("indicator", .list (indicators.map fun s => .object [("name", .text s)]))]),
     ("series", .list [.object [("name", .text "Radar"), ("type", .text "radar"),
      ("data", .list (shapes.map shapeDatum))]])]
  | scatter xName yName clouds =>
    [("xAxis", .object [("type", .text "value"), ("name", xName)]),
     ("yAxis", .object [("type", .text "value"), ("name", yName)]),
     ("series", .list (clouds.map cloudDatum))]

/-- The description of a chart. -/
def Spec.toRecord (s : Spec) : Record := ("title", titleDatum s.title) :: s.plot.toRecord

/-! ## From rows -/

/-- Titles to take in place of the usual ones; one that reads as false is not given. -/
structure Titles where
  chart : Datum := .null
  xAxis : Datum := .null
  yAxis : Datum := .null
  legend : Datum := .null

/-- What chart to make of rows. -/
structure Request where
  kind : String
  xField : String
  yFields : List String
  seriesBy : Option String := none
  timeField : Option String := none
  granularity : Granularity := .day
  titles : Titles := {}

/-- The name of values without a better one. -/
def valuesName : String := "Values"

namespace Request

/-- The label of a row on the X axis. -/
def label (q : Request) (row : Record) : String :=
  let v := Record.get row q.xField
  if q.timeField == some q.xField && !q.xField.isEmpty then dateLabel q.granularity v else v.label

/-- The title of the chart. -/
def title (q : Request) : Datum :=
  q.titles.chart.orElse (.text (Text.upper q.kind ++ " - " ++ q.xField))

/-- The name of the X axis. -/
def xName (q : Request) : Datum := q.titles.xAxis.orElse (.text q.xField)

/-- The name of the Y axis. -/
def yName (q : Request) : Datum := q.titles.yAxis.orElse (.text valuesName)

/-- The only measure of a chart that shows a single one. -/
def measure (q : Request) : Except Fault String :=
  match q.yFields with
  | field :: _ => .ok field
  | [] => .error .noItem

/-- The number of a row in a field. -/
def numberIn (field : String) (row : Record) : Except Fault Float := (Record.get row field).number

/-- A pie: with several measures a slice for the sum of each, else a slice for each row. -/
def pie (q : Request) (rows : List Record) : Except Fault Plot :=
  if 1 < q.yFields.length then do
    let slices ← q.yFields.mapM fun field => do return Slice.mk field (total (← column rows field))
    return .pie (q.titles.legend.orElse (.text valuesName)) slices
  else do
    let slices ← rows.mapM fun row => do
      return Slice.mk (q.label row) (some (← numberIn (← q.measure) row))
    let name ← if q.titles.legend.truthy then .ok q.titles.legend else (q.measure).map .text
    return .pie name slices

/-- The first of the rows with each label, in order, given the labels seen so far. -/
def firstRowsFrom (seen : List String) : List (String × Record) → List (String × Record)
  | [] => []
  | (name, row) :: rest =>
    if name ∈ seen then firstRowsFrom seen rest
    else (name, row) :: firstRowsFrom (name :: seen) rest

/-- The first of the rows with each label, in order. -/
def firstRows (q : Request) (rows : List Record) : List (String × Record) :=
  firstRowsFrom [] (rows.map fun row => (q.label row, row))

/-- A radar chart: the first row of each label is an indicator, each measure a shape. -/
def radar (q : Request) (rows : List Record) : Except Fault Plot := do
  let first := q.firstRows rows
  let shapes ← q.yFields.mapM fun field => do return (field, ← column (first.map (·.2)) field)
  return .radar (first.map (·.1)) shapes

/-- A scatter chart: each row a point for each measure. -/
def scatter (q : Request) (rows : List Record) : Except Fault Plot := do
  let clouds ← q.yFields.mapM fun field => do
    let points ← rows.mapM fun row => do return (← numberIn q.xField row, ← numberIn field row)
    return (field, points)
  return .scatter q.xName q.yName clouds

/-- The first row of a label and a series. -/
def cell? (q : Request) (seriesBy : String) (rows : List Record) (category series : String) :
    Option Record :=
  rows.find? fun row => q.label row == category && (Record.get row seriesBy).label == series

/-- The texts that split the rows into series: all but the empty one, each once. -/
def seriesNames (seriesBy : String) (rows : List Record) : List String :=
  (distinctTexts (rows.map fun row => (Record.get row seriesBy).label)).filter (!·.isEmpty)

/-- A chart whose measure is split into series by another field: each series has an amount for each
category, empty where no row has both. -/
def pivot (q : Request) (seriesBy : String) (rows : List Record) : Except Fault Plot := do
  let categories := distinctTexts (rows.map q.label)
  let series ← (seriesNames seriesBy rows).mapM fun name => do
    let amounts ← categories.mapM fun category =>
      match q.cell? seriesBy rows category name with
      | some row => do return some (← numberIn (← q.measure) row)
      | none => .ok none
    return Series.mk (.text name) amounts
  return .axis q.kind categories q.xName q.yName series

/-- A chart with a series for each measure and a category for each row. -/
def plain (q : Request) (rows : List Record) : Except Fault Plot := do
  let series ← q.yFields.mapM fun field => do
    let name := if q.yFields.length = 1 then q.titles.legend.orElse (.text field) else .text field
    return Series.mk name ((← column rows field).map some)
  return .axis q.kind (rows.map q.label) q.xName q.yName series

/-- What the chart shows. -/
def plot (q : Request) (rows : List Record) : Except Fault Plot :=
  if q.kind == "pie" then q.pie rows
  else if q.kind == "radar" then q.radar rows
  else if q.kind == "scatter" then q.scatter rows
  else match q.seriesBy with
    | some field => q.pivot field rows
    | none => q.plain rows

/-- Refuses what cannot be shown: bars and lines take one measure if they are split into series. -/
def validate (q : Request) : Except Fault Unit :=
  if q.seriesBy.isSome && 1 < q.yFields.length && (q.kind == "bar" || q.kind == "line") then
    .error (.misuse .severalMeasuresInPivot)
  else .ok ()

/-- The specification of the chart. -/
def spec (q : Request) (rows : List Record) : Except Fault Spec := do
  q.validate
  return ⟨q.title, ← q.plot rows⟩

end Request

end ChartBoard.Chart
