import ChartBoard.Datum.Unique
import ChartBoard.Relationship.JoinPath
import ChartBoard.Settings
import ChartBoard.Widget.Alias
import ChartBoard.Widget.Source

/-!
# Compiled widgets

The statement that answers a widget.  It depends on the source, the confirmed edges, the known
column types and the constraints alone; nothing is asked of the database.

* `Source.validate` refuses what cannot be compiled, before anything else is looked at.
* `Source.usedTables` lists the tables a widget touches.
* `Source.compile` gives the query and the output names it produces.
* `distinctValues` is the query for the values of a column.
-/

namespace ChartBoard.Widget

open Relationship Sql

/-- Allowed values by field, as they are given. -/
abbrev Constraints := List (String × Datum)

/-- A compiled widget: its query and the output names. -/
structure Compiled where
  query : Query
  kind : String
  xAlias : Option String
  yAliases : List String
  seriesAlias : Option String
  temporalX : Bool

/-- The statement as it is sent. -/
def Compiled.sql (c : Compiled) : String := c.query.text

/-- The description of a compiled widget. -/
def Compiled.toRecord (c : Compiled) : Record :=
  [("sql", .text c.sql), ("kind", .text c.kind), ("x_alias", .ofText? c.xAlias),
   ("y_aliases", .texts c.yAliases), ("series_alias", .ofText? c.seriesAlias),
   ("temporal_x", .bool c.temporalX)]

/-! ## Validation -/

/-- The kinds of chart a widget may ask for. -/
def chartKinds : List String := ["bar", "line", "pie", "scatter", "kpi", "radar"]

/-- The first thing that keeps a source from being compiled, if there is one. -/
def Source.misuse? (s : Source) : Option Misuse :=
  if s.baseTable.isEmpty then some .noTable
  else if s.kind ∉ chartKinds then some (.unsupportedChart s.chartType)
  else if s.aggregation ∉ Aggregate.supported then some (.unsupportedAggregation s.aggregation)
  else if s.kind == "kpi" then (if s.yFields.isEmpty then some .noKpiField else none)
  else if s.xField.isEmpty then some .noXAxis
  else if s.yFields.isEmpty then some .noYAxis
  else if s.seriesBy.isSome && 1 < s.yFields.length && (s.kind == "bar" || s.kind == "line") then
    some .severalMeasuresBySeries
  else none

/-- Refuses what cannot be compiled. -/
def Source.validate (s : Source) : Except Fault Unit :=
  match s.misuse? with
  | some cause => .error (.misuse cause)
  | none => .ok ()

/-! ## Tables and conditions -/

/-- The fields whose tables a widget touches, in order. -/
def Source.usedFields (s : Source) (constraints : Constraints) : List String :=
  s.xAxis.toList ++ s.yFields ++ s.seriesBy.toList
    ++ (if s.kind == "kpi" then s.options.kpiTimeColumn.toList ++ s.options.kpiFilterXAxis.toList
        else [])
    ++ constraints.map (·.1)

/-- The tables a widget touches, each where it comes first. -/
def Source.usedTables (s : Source) (constraints : Constraints) : List String :=
  distinctTexts (((s.usedFields constraints).filter fun f => !(Text.trim f).isEmpty).map
    fun f => (Field.parse s.baseTable f).table)

/-- True when a field holds dates or times. -/
def isTemporalField (base : String) (schemas : List Schema.Table) (field : String) : Bool :=
  let f := Field.parse base field
  !field.isEmpty && isTemporalType (Schema.columnType schemas f.table f.column)

/-- The condition that an expression is one of some values, nulls aside.  Points in time are
matched by the labels that charts show for them. -/
def conditionOn (e : Expr) (values : List Datum) (temporal : Bool) : Except Fault Condition :=
  match values.filter (!·.isNull) with
  | [] => .ok .never
  | known =>
    if temporal then .ok (.labelOneOf e (known.map Datum.display))
    else (known.mapM Literal.ofDatum).map (.oneOf e)

/-- The condition of one constraint. -/
def constraintCondition (path : JoinPath) (schemas : List Schema.Table)
    (constraint : String × Datum) : Except Fault Condition := do
  let e ← path.column constraint.1
  conditionOn e (← constraint.2.items) (isTemporalField path.base schemas constraint.1)

/-! ## Key figures -/

/-- The length and the unit of the windows of a key figure.  A length below one counts as one, and
the unit may stand in the plural. -/
def Source.window (settings : Settings) (s : Source) : Except Fault (Nat × String) :=
  let length := match s.options.kpiWindowLength with
    | some n => if n = 0 then settings.kpiWindowLength else n
    | none => settings.kpiWindowLength
  let given := match s.options.kpiWindowUnit with
    | some u => if u.isEmpty then settings.kpiWindowUnit else u
    | none => settings.kpiWindowUnit
  let unit := String.ofList
    (Text.dropEndWhile (· == 's') (Text.lower (Text.trim given)).toList)
  if (Granularity.ofName? unit).isSome then .ok ((max 1 length).toNat, unit)
  else .error (.misuse (.unsupportedWindowUnit (s.options.kpiWindowUnit.getD "None")))

/-- The query of a key figure. -/
def Source.kpiQuery (settings : Settings) (s : Source) (path : JoinPath)
    (conditions : List Condition) : Except Fault Query := do
  let aggregate := Aggregate.ofCapitals s.aggregation
  let y ← path.column (s.yFields.headD "")
  if s.timeField.isEmpty then return .total (aggregate.column y) path.tables conditions
  else
    let (length, unit) ← s.window settings
    if !Number.isWritable (2 * length : Nat) then throw (.tooManyDigits none)
    let time := (← path.column s.timeField).moment
    return .windows time (aggregate.input y) path.tables (.known time :: conditions)
      (aggregate.outer (.code "v")) length unit

/-! ## Charts -/

/-- The query of a scatter chart: all fields as numbers, row by row. -/
def Source.scatterQuery (s : Source) (path : JoinPath) (conditions : List Condition) :
    Except Fault Compiled := do
  let x ← path.column s.xField
  let ys ← s.yFields.mapM path.column
  let names := freshNames (s.xField :: s.yFields)
  let items := ((x :: ys).zip names).map fun (e, name) => Item.mk e.numeric name
  return {
    query := .table items path.tables conditions none
    kind := s.kind
    xAlias := names.head?
    yAliases := names.drop 1
    seriesAlias := none
    temporalX := false }

/-- The expression on the X axis: dates are cut down to the unit they are shown by. -/
def bucket (g : Granularity) (e : Expr) : Expr :=
  match g with
  | .day => e.moment
  | .month | .year => e.moment.truncated g.name

/-- The query of a chart by category. -/
def Source.axisQuery (s : Source) (path : JoinPath) (schemas : List Schema.Table)
    (conditions : List Condition) : Except Fault Compiled := do
  let raw ← path.column s.xField
  let temporal := isTemporalField s.baseTable schemas s.xField
  let x := if temporal then bucket s.granularity raw else raw
  let series ← s.seriesBy.toList.mapM path.column
  let aggregate := Aggregate.ofCapitals s.aggregation
  let ys ← s.yFields.mapM path.column
  let measures := ys.map fun e =>
    if aggregate = .rowLevel then e.numeric else aggregate.column e
  let names := freshNames (s.xField :: s.seriesBy.toList ++ s.yFields)
  let items := ((x :: series ++ measures).zip names).map fun (e, name) => Item.mk e name
  return {
    query := .table items path.tables conditions
      (if aggregate = .rowLevel then none else some (x :: series, x))
    kind := s.kind
    xAlias := names.head?
    yAliases := names.drop (1 + series.length)
    seriesAlias := if series.isEmpty then none else (names.drop 1).head?
    temporalX := temporal }

/-! ## Compilation -/

/-- The compiled widget. -/
def Source.compile (settings : Settings) (s : Source) (edges : List Edge)
    (schemas : List Schema.Table) (constraints : Constraints) : Except Fault Compiled := do
  s.validate
  let path ← JoinPath.resolve s.baseTable (s.usedTables constraints) edges
  let conditions ← constraints.mapM (constraintCondition path schemas)
  if s.kind == "kpi" then
    return {
      query := ← s.kpiQuery settings path conditions
      kind := s.kind
      xAlias := none
      yAliases := [currentValue, previousValue]
      seriesAlias := none
      temporalX := false }
  else if s.kind == "scatter" then s.scatterQuery path conditions
  else s.axisQuery path schemas conditions

/-- The query for the distinct values of a column, narrowed by the values of other columns of its
table. -/
def distinctValues (settings : Settings) (table column : String) (others : Constraints)
    (limit : Datum) (schemas : List Schema.Table) : Except Fault Query := do
  let conditions ← (others.filter (·.1 != column)).mapM fun (name, values) => do
    conditionOn (.bare name) (← values.items)
      (isTemporalType (Schema.columnType schemas table name))
  let limit ← if limit.truthy then limit.writableInteger else .ok settings.optionLimit
  return .values column table conditions limit

end ChartBoard.Widget
