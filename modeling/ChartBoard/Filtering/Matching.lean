import ChartBoard.Filtering.Active
import ChartBoard.Datum.Reading
import ChartBoard.Datum.Unique
import ChartBoard.Figure.OfChart
import ChartBoard.Relationship.Field
import ChartBoard.Widget.Source

/-!
# Filtered charts

How active filters restrict a chart that is drawn already.  A filter concerns a chart when its
column has the name of the column on the X axis, or when one of its values is among the categories
on display.

* `isFilterable` says of which charts filters are taken into account.
* `allowedLabels?` are the labels that the filters leave to a chart.
* `filtered?` is the chart with those alone, unless it keeps them all.
* `filteredBy` takes the filters as they are given.
-/

namespace ChartBoard.Filtering

open Relationship (Field)
open Widget (Source)

/-- The column that a chart filters on when one of its categories is clicked. -/
def filterField? (table xAxis : String) : Option Field :=
  if table.isEmpty || xAxis.isEmpty then none else some (Field.parse table xAxis)

/-- The column that the X axis of a widget stands for. -/
def axisField? (s : Source) : Option Field :=
  filterField? (if s.tableName.isEmpty then s.baseTable else s.tableName) (s.xAxis.getD "")

/-- The categories that a chart displays, nulls aside: the names of the slices of a pie, else the
labels on the X axis. -/
def displayedCategories (chart : Datum) (kind : String) : List Datum :=
  match (if kind == "pie" then (Figure.itemsIn chart "series").head? else none) with
  | some (.object first) =>
    let slices := ((Record.get first "data").asList?.getD []).filter Datum.isObject
    distinct ((slices.map fun s => s.get "name").filter (!·.isNull))
  | _ => distinct ((Figure.itemsIn (chart.get "xAxis") "data").filter (!·.isNull))

/-- True when a filter concerns a chart with a column on its X axis and categories on display. -/
def concerns (column : String) (displayed : List String) (f : ActiveFilter) : Bool :=
  normalLabel (.text f.column) == normalLabel (.text column)
    || f.values.any fun v => displayed.contains (normalLabel v)

/-- True of a chart whose widget has a column on its X axis. -/
def isFilterable (s : Source) (chart : Datum) : Bool := (axisField? s).isSome && !chart.isNull

/-- The labels that filters leave to a chart; none when no filter concerns it. -/
def allowedLabels? (filters : List ActiveFilter) (s : Source) (chart : Datum) :
    Option (List String) :=
  match axisField? s with
  | none => none
  | some field =>
    if chart.isNull then none
    else
      let displayed := (displayedCategories chart s.kind).map normalLabel
      let relevant := (withValues filters).filter (concerns field.column displayed)
      if relevant.isEmpty then none
      else some (distinctTexts (relevant.flatMap fun f => f.values.map normalLabel))

/-! ## Restricting -/

/-- The items at the positions that are kept. -/
def pick {α : Type} : List Bool → List α → List α
  | true :: keep, x :: xs => x :: pick keep xs
  | false :: keep, _ :: xs => pick keep xs
  | _, _ => []

/-- A series with its points changed, if it lists points. -/
def withPoints (change : List Datum → List Datum) : Datum → Datum
  | .object serie =>
    match Record.get serie "data" with
    | .list points => .object (Record.set serie "data" (.list (change points)))
    | _ => .object serie
  | v => v

/-- A series without points. -/
def emptied : Datum → Datum
  | .object serie => .object (Record.set serie "data" (.list []))
  | v => v

/-- The chart marked as left without points. -/
def marked (chart : Record) : Record := Record.set chart Figure.emptyMark (.bool true)

/-- A chart with its categories restricted, unless all are kept. -/
def filteredAxis? (allowed : List String) (chart : Record) : Option Record :=
  match Record.get chart "xAxis", Record.get chart "series" with
  | .object axis, .list series =>
    match Record.get axis "data" with
    | .list labels =>
      let keep := labels.map fun v => allowed.contains (normalLabel v)
      let withLabels (chart : Record) (labels : List Datum) : Record :=
        Record.set chart "xAxis" (.object (Record.set axis "data" (.list labels)))
      if keep.all id then none
      else if keep.any id then
        some (Record.set (withLabels chart (pick keep labels)) "series"
          (.list (series.map (withPoints (pick keep)))))
      else
        some (Record.set (withLabels (marked chart) []) "series" (.list (series.map emptied)))
    | _ => none
  | _, _ => none

/-- True of a slice whose name is allowed. -/
def isAllowedSlice (allowed : List String) (slice : Datum) : Bool :=
  slice.isObject && allowed.contains (normalLabel (slice.get "name"))

/-- A pie with its slices restricted, unless all are kept. -/
def filteredPie? (allowed : List String) (chart : Record) : Option Record :=
  match Record.get chart "series" with
  | .list (.object first :: rest) =>
    match Record.get first "data" with
    | .list slices =>
      let kept := slices.filter (isAllowedSlice allowed)
      let withSlices (chart : Record) : Record :=
        Record.set chart "series" (.list (.object (Record.set first "data" (.list kept)) :: rest))
      if kept.length = slices.length then none
      else some (withSlices (if kept.isEmpty then marked chart else chart))
    | _ => none
  | _ => none

/-- The chart with the allowed categories alone, unless nothing changes. -/
def filtered? (filters : List ActiveFilter) (s : Source) (chart : Record) : Option Record :=
  match allowedLabels? filters s (.object chart) with
  | none => none
  | some allowed =>
    if s.kind == "pie" then filteredPie? allowed chart else filteredAxis? allowed chart

/-- The chart with the allowed categories alone. -/
def filtered (filters : List ActiveFilter) (s : Source) (chart : Record) : Record :=
  (filtered? filters s chart).getD chart

/-! ## Filters as they are given -/

/-- The filters that entries mean for a chart.  Where no filter can concern it, the entries are not
looked at. -/
def activeFor (filters : Datum) (s : Source) (chart : Datum) : Except Fault (List ActiveFilter) :=
  if isFilterable s chart then (entriesOf filters).map validFilters else .ok []

/-- The chart under filters given as a list or by key. -/
def filteredBy (filters : Datum) (s : Source) (chart : Record) : Except Fault Record :=
  (activeFor filters s (.object chart)).map fun active => filtered active s chart

end ChartBoard.Filtering
