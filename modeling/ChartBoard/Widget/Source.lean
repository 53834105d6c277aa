import ChartBoard.Datum.Reading
import ChartBoard.Form.Reading
import ChartBoard.Fault
import ChartBoard.Text.Blank

/-!
# Data sources of widgets

What a widget shows: a base table, the fields on its axes, a kind of chart and further options.

* `Source.read` reads a source, `Source.toDatum` describes it.
* `Source.baseTable`, `Source.kind`, `Source.yFields`, `Source.aggregation`, `Source.seriesBy` and
  `Source.granularity` are the views that the rest of the library takes.
-/

namespace ChartBoard.Widget

open Form

/-- The fields on the Y axis: one, or a list. -/
inductive YAxis where
  | one (field : String)
  | many (fields : List String)
deriving DecidableEq, Repr

/-- New names for series: as lines of text, or by name. -/
inductive AliasText where
  | lines (text : String)
  | byName (names : List (String × String))
deriving DecidableEq, Repr

/-- The options of a widget. -/
structure Options where
  baseTable : Option String
  aggregation : Option String
  seriesBy : Option String
  timeGranularity : Option String
  kpiTimeColumn : Option String
  kpiWindowLength : Option Int
  kpiWindowUnit : Option String
  kpiFilterXAxis : Option String
  kpiThresholds : Datum
  kpiLegend : Option String
  chartTitle : Option String
  xAxisLabel : Option String
  yAxisLabel : Option String
  seriesAliases : Option AliasText
  showLegend : Option Bool
  /-- Members that are not options, kept as they are. -/
  others : Record

/-- The data source of a widget. -/
structure Source where
  tableName : String
  xAxis : Option String
  yAxis : Option YAxis
  chartType : String
  options : Options

/-! ## Reading -/

/-- The names of the options, each with its plain form. -/
def Options.lookups : List Lookup :=
  [⟨"baseTable", "base_table"⟩, ⟨"aggregation", "aggregation"⟩, ⟨"seriesBy", "series_by"⟩,
   ⟨"timeGranularity", "time_granularity"⟩, ⟨"kpiTimeColumn", "kpi_time_column"⟩,
   ⟨"kpiWindowValue", "kpi_window_value"⟩, ⟨"kpiWindowUnit", "kpi_window_unit"⟩,
   ⟨"kpiFilterXAxis", "kpi_filter_x_axis"⟩, ⟨"kpiThresholds", "kpi_thresholds"⟩,
   ⟨"kpiLegend", "kpi_legend"⟩, ⟨"chartInternalTitle", "chart_internal_title"⟩,
   ⟨"xAxisLabel", "x_axis_label"⟩, ⟨"yAxisLabel", "y_axis_label"⟩,
   ⟨"seriesAliasMap", "series_alias_map"⟩, ⟨"showLegend", "show_legend"⟩]

/-- The members of an object under which no option is found. -/
def Options.othersOf (r : Record) : Record :=
  let used := Options.lookups.filterMap fun l => (l.find? r).map (·.1)
  r.filter fun (name, _) => name ∉ used

/-- New names for series. -/
def readAliasText : Reader AliasText :=
  either "str" (fun v => (text v).map .lines) "dict[str,str]" (fun v => (textMap v).map .byName)

/-- The options without any set. -/
def Options.none : Options :=
  ⟨.none, .none, .none, .none, .none, .none, .none, .none, .null, .none, .none, .none, .none,
    .none, .none, []⟩

/-- The options in an object. -/
def Options.ofRecord (r : Record) : Checked Options :=
  let word (wire plain : String) : Checked (Option String) :=
    withDefault r ⟨wire, plain⟩ Option.none (nullable text)
  Checked.apply (Checked.apply (Checked.apply (Checked.apply (Checked.apply (Checked.apply
  (Checked.apply (Checked.apply (Checked.apply (Checked.apply (Checked.apply (Checked.apply
  (Checked.apply (Checked.apply (Checked.apply
    (.ok fun b a s g t n u f h l c x y m v => Options.mk b a s g t n u f h l c x y m v
      (Options.othersOf r))
    (word "baseTable" "base_table"))
    (word "aggregation" "aggregation"))
    (word "seriesBy" "series_by"))
    (word "timeGranularity" "time_granularity"))
    (word "kpiTimeColumn" "kpi_time_column"))
    (withDefault r ⟨"kpiWindowValue", "kpi_window_value"⟩ Option.none (nullable integer)))
    (word "kpiWindowUnit" "kpi_window_unit"))
    (word "kpiFilterXAxis" "kpi_filter_x_axis"))
    (withDefault r ⟨"kpiThresholds", "kpi_thresholds"⟩ .null anything))
    (word "kpiLegend" "kpi_legend"))
    (word "chartInternalTitle" "chart_internal_title"))
    (word "xAxisLabel" "x_axis_label"))
    (word "yAxisLabel" "y_axis_label"))
    (withDefault r ⟨"seriesAliasMap", "series_alias_map"⟩ Option.none (nullable readAliasText)))
    (withDefault r ⟨"showLegend", "show_legend"⟩ Option.none (nullable bool))

/-- The options; `otherwise` is the problem of a value that is no object. -/
def Options.read (otherwise : ProblemKind) : Reader Options
  | .object r => Options.ofRecord r
  | _ => Checked.problem otherwise

/-- The fields on the Y axis. -/
def readYAxis : Reader YAxis :=
  either "str" (fun v => (text v).map .one) "list[str]" (fun v => (listOf text v).map .many)

/-- A data source; `otherwise` is the problem of a value that is no object. -/
def Source.read (otherwise : ProblemKind) : Reader Source
  | .object r =>
    Checked.apply (Checked.apply (Checked.apply (Checked.apply (Checked.apply
      (.ok Source.mk)
      (withDefault r ⟨"tableName", "table_name"⟩ "" text))
      (withDefault r ⟨"xAxis", "x_axis"⟩ .none (nullable text)))
      (withDefault r ⟨"yAxis", "y_axis"⟩ .none (nullable readYAxis)))
      (withDefault r ⟨"chartType", "chart_type"⟩ "bar" text))
      (withDefault r ⟨"extraFields", "extra_fields"⟩ Options.none (Options.read otherwise))
  | _ => Checked.problem otherwise

/-! ## Describing -/

/-- The description of the Y axis. -/
def YAxis.toDatum : YAxis → Datum
  | one field => .text field
  | many fields => .texts fields

/-- The description of new names for series. -/
def AliasText.toDatum : AliasText → Datum
  | lines s => .text s
  | byName names => .object (names.map fun (name, new) => (name, .text new))

/-- The description of an optional integer. -/
def integerOrNull : Option Int → Datum
  | some n => .int n
  | .none => .null

/-- The description of an optional truth value. -/
def boolOrNull : Option Bool → Datum
  | some b => .bool b
  | .none => .null

/-- The description of the options by their plain names, the other members set over them. -/
def Options.toRecord (o : Options) : Record :=
  Record.merge
    [("base_table", .ofText? o.baseTable), ("aggregation", .ofText? o.aggregation),
     ("series_by", .ofText? o.seriesBy), ("time_granularity", .ofText? o.timeGranularity),
     ("kpi_time_column", .ofText? o.kpiTimeColumn),
     ("kpi_window_value", integerOrNull o.kpiWindowLength),
     ("kpi_window_unit", .ofText? o.kpiWindowUnit),
     ("kpi_filter_x_axis", .ofText? o.kpiFilterXAxis), ("kpi_thresholds", o.kpiThresholds),
     ("kpi_legend", .ofText? o.kpiLegend), ("chart_internal_title", .ofText? o.chartTitle),
     ("x_axis_label", .ofText? o.xAxisLabel), ("y_axis_label", .ofText? o.yAxisLabel),
     ("series_alias_map", (o.seriesAliases.map AliasText.toDatum).getD .null),
     ("show_legend", boolOrNull o.showLegend)]
    o.others

/-- The description of a source by plain names. -/
def Source.toDatum (s : Source) : Datum :=
  .object [("table_name", .text s.tableName), ("x_axis", .ofText? s.xAxis),
    ("y_axis", (s.yAxis.map YAxis.toDatum).getD .null), ("chart_type", .text s.chartType),
    ("extra_fields", .object s.options.toRecord)]

/-! ## Views -/

/-- An optional text, empty where there is none, trimmed. -/
def trimmed (s : Option String) : String := Text.trim (s.getD "")

/-- An optional text, trimmed, if anything is left of it. -/
def trimmed? (s : Option String) : Option String :=
  if (trimmed s).isEmpty then .none else some (trimmed s)

namespace Source

/-- The table that bare field names belong to. -/
def baseTable (s : Source) : String :=
  Text.trim (match s.options.baseTable with
    | some t => if t.isEmpty then s.tableName else t
    | .none => s.tableName)

/-- The kind of chart, in lower case. -/
def kind (s : Source) : String := Text.lower (Text.trim s.chartType)

/-- The field on the X axis, empty where there is none. -/
def xField (s : Source) : String := trimmed s.xAxis

/-- The fields on the Y axis that are not blank. -/
def yFields (s : Source) : List String :=
  let raw := match s.yAxis with
    | .none => []
    | some (.one field) => [field]
    | some (.many fields) => fields
  (raw.map Text.trim).filter (!·.isEmpty)

/-- The name of the aggregate, in capitals. -/
def aggregation (s : Source) : String :=
  let name := Text.upper (trimmed s.options.aggregation)
  if name.isEmpty then "SUM" else name

/-- The field that splits the measure into series. -/
def seriesBy (s : Source) : Option String := trimmed? s.options.seriesBy

/-- The unit that dates on the X axis are shown by. -/
def granularity (s : Source) : Granularity :=
  (Granularity.ofName? (Text.lower (trimmed s.options.timeGranularity))).getD .day

/-- The time column of a key figure, empty where there is none. -/
def timeField (s : Source) : String := trimmed s.options.kpiTimeColumn

end Source

end ChartBoard.Widget
