import ChartBoard.Datum.Reading
import ChartBoard.Filtering.Active
import ChartBoard.Relationship.Field
import ChartBoard.Widget.Compiled

/-!
# Filters on key figures

A key figure sums up all rows that the filters leave, so it is asked for anew under the filters that
concern it: with a linked column those on columns of that name, else those on the base table.

* `isFilterable` says of which sources filters are taken into account.
* `constraints?` are the constraints that the filters mean for a key figure.
-/

namespace ChartBoard.Kpi

open Filtering (ActiveFilter)
open Relationship (Field)
open Widget (Source Constraints)

/-- The field of a column of the base table. -/
def baseField (base column : String) : String := base ++ "." ++ column

/-- The constraint of the filters on columns of the name of the linked one: all their values. -/
def linkedConstraints? (base : String) (link : Field) (filters : List ActiveFilter) :
    Option Constraints :=
  let relevant := filters.filter fun f =>
    normalLabel (.text f.column) == normalLabel (.text link.column)
  if relevant.isEmpty then none
  else
    let values := distinctTexts (relevant.flatMap fun f => f.values.map Datum.label)
    some [(baseField base link.column, .texts values)]

/-- The constraints of the filters on the base table, one for each column. -/
def tableConstraints? (base : String) (filters : List ActiveFilter) : Option Constraints :=
  let relevant := filters.filter fun f => f.table == base
  if relevant.isEmpty then none
  else some (Keyed.ofPairs (relevant.map fun f => (baseField base f.column, .list f.values)))

/-- True of the key figures of a column of their base table. -/
def isFilterable (s : Source) : Bool :=
  match s.yFields with
  | [] => false
  | y :: _ =>
    s.kind == "kpi" && !s.baseTable.isEmpty && (Field.parse s.baseTable y).table == s.baseTable

/-- The constraints that filters mean for a source; none when no filter concerns it. -/
def constraints? (s : Source) (filters : List ActiveFilter) : Option Constraints :=
  if isFilterable s then
    let base := s.baseTable
    let link := Field.parse base (s.options.kpiFilterXAxis.getD "")
    let active := Filtering.withValues filters
    if (normalLabel (.text link.column)).isEmpty then tableConstraints? base active
    else linkedConstraints? base link active
  else none

end ChartBoard.Kpi
