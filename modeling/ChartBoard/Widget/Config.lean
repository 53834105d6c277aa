import ChartBoard.Widget.Source

/-!
# Chart configurations

A data source with its options sorted out by kind of chart.

* `Source.config` gives the configuration of a source, or says that its chart is not supported.
* `Config.read` reads a configuration by its tag, `Config.toDatum` describes it.
-/

namespace ChartBoard.Widget

open Form

/-- The charts with a measure by category. -/
inductive AxisKind where
  | bar
  | line
  | pie
  | radar
deriving DecidableEq, Repr

/-- The word for a kind of chart. -/
def AxisKind.name : AxisKind → String
  | bar => "bar"
  | line => "line"
  | pie => "pie"
  | radar => "radar"

/-- The kind of chart that a word names. -/
def AxisKind.ofName? (s : String) : Option AxisKind :=
  [bar, line, pie, radar].find? fun k => k.name == s

/-- The fields of a chart. -/
structure Axes where
  baseTable : String
  xField : String
  yFields : List String
deriving DecidableEq, Repr

/-- A configuration by kind of chart. -/
inductive Config where
  | axis (kind : AxisKind) (axes : Axes) (aggregation : String) (seriesBy : Option String)
      (granularity : String)
  | scatter (axes : Axes)
  | kpi (baseTable yField aggregation : String) (timeColumn : Option String)
      (windowLength : Option Int) (windowUnit filterXAxis : Option String) (thresholds : Datum)
      (legend : Option String)

/-- The configuration of a source. -/
def Source.config (s : Source) : Except Fault Config :=
  let o := s.options
  let axes : Axes := ⟨s.baseTable, s.xField, s.yFields⟩
  if s.kind == "kpi" then
    .ok (.kpi s.baseTable (s.yFields.headD "") s.aggregation (trimmed? o.kpiTimeColumn)
      o.kpiWindowLength o.kpiWindowUnit (trimmed? o.kpiFilterXAxis) o.kpiThresholds o.kpiLegend)
  else if s.kind == "scatter" then .ok (.scatter axes)
  else match AxisKind.ofName? s.kind with
    | some kind => .ok (.axis kind axes s.aggregation s.seriesBy s.granularity.name)
    | none => .error (.misuse (.unsupportedChart s.chartType))

/-! ## Reading and describing -/

/-- The fields of a chart in an object. -/
def readAxes (r : Record) : Checked Axes :=
  Checked.apply (Checked.apply (Checked.apply (.ok Axes.mk)
    (required r (.ofName "base_table") text))
    (required r (.ofName "x_field") text))
    (required r (.ofName "y_fields") (listOf text))

/-- A member that may be absent or null. -/
def nullableMember {α : Type} (r : Record) (name : String) (read : Reader α) :
    Checked (Option α) := withDefault r (.ofName name) none (nullable read)

/-- The configuration of a chart with a measure by category. -/
def readAxis (kind : AxisKind) (r : Record) : Checked Config :=
  Checked.apply (Checked.apply (Checked.apply (Checked.apply
    (.ok fun axes a s g => Config.axis kind axes a s g)
    (readAxes r))
    (withDefault r (.ofName "aggregation") "SUM" text))
    (nullableMember r "series_by" text))
    (withDefault r (.ofName "time_granularity") "day" text)

/-- The configuration of a key figure. -/
def readKpi (r : Record) : Checked Config :=
  Checked.apply (Checked.apply (Checked.apply (Checked.apply (Checked.apply (Checked.apply
  (Checked.apply (Checked.apply (Checked.apply (.ok Config.kpi)
    (required r (.ofName "base_table") text))
    (required r (.ofName "y_field") text))
    (withDefault r (.ofName "aggregation") "SUM" text))
    (nullableMember r "time_column" text))
    (nullableMember r "window_value" integer))
    (nullableMember r "window_unit" text))
    (nullableMember r "filter_x_axis" text))
    (withDefault r (.ofName "thresholds") .null anything))
    (nullableMember r "legend" text)

/-- The reader that a tag selects. -/
def readerOfTag? (tag : String) : Option (Record → Checked Config) :=
  if tag == "scatter" then some fun r => (readAxes r).map .scatter
  else if tag == "kpi" then some readKpi
  else (AxisKind.ofName? tag).map readAxis

/-- A configuration, by its tag. -/
def Config.read : Reader Config
  | .object r =>
    match Record.get? r "chart_type" with
    | none => Checked.problem .noTag
    | some (.text tag) =>
      match readerOfTag? tag with
      | some read => Checked.within (.member tag) (read r)
      | none => Checked.problem .unknownTag
    | some _ => Checked.problem .unknownTag
  | _ => Checked.problem .notBody

/-- The word for the kind of chart. -/
def Config.kindName : Config → String
  | axis kind .. => kind.name
  | scatter _ => "scatter"
  | kpi .. => "kpi"

/-- The description of the fields. -/
def Axes.toRecord (a : Axes) : Record :=
  [("base_table", .text a.baseTable), ("x_field", .text a.xField), ("y_fields", .texts a.yFields)]

/-- The description of a configuration. -/
def Config.toRecord (c : Config) : Record :=
  ("chart_type", .text c.kindName) :: match c with
  | axis _ axes aggregation seriesBy granularity =>
    axes.toRecord ++ [("aggregation", .text aggregation), ("series_by", .ofText? seriesBy),
      ("time_granularity", .text granularity)]
  | scatter axes => axes.toRecord
  | kpi base y aggregation time length unit link thresholds legend =>
    [("base_table", .text base), ("y_field", .text y), ("aggregation", .text aggregation),
     ("time_column", .ofText? time), ("window_value", integerOrNull length),
     ("window_unit", .ofText? unit), ("filter_x_axis", .ofText? link),
     ("thresholds", thresholds), ("legend", .ofText? legend)]

end ChartBoard.Widget
