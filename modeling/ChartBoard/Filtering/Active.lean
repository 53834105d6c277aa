import ChartBoard.Datum.Basic
import ChartBoard.Datum.Display
import ChartBoard.Fault

/-!
# Active filters

A filter keeps the rows whose column has one of its values.

* `ActiveFilter.ofDatum?` reads a filter leniently.
* `validFilters` are the filters among loosely typed entries that say something.
-/

namespace ChartBoard.Filtering

/-- The allowed values of a column. -/
structure ActiveFilter where
  table : String
  column : String
  values : List Datum

/-- What filters are kept by. -/
def keyOf (table column : String) : String := table ++ "::" ++ column

/-- What a filter is kept by. -/
def ActiveFilter.key (f : ActiveFilter) : String := keyOf f.table f.column

/-- The description of a filter. -/
def ActiveFilter.toDatum (f : ActiveFilter) : Datum :=
  .object [("tableName", .text f.table), ("column", .text f.column), ("values", .list f.values)]

/-- The table that a description names. -/
def tableOf (r : Record) : Datum := (Record.get? r "tableName").getD (Record.get r "table_name")

/-- The filter that a description means, unless its table or column is missing or its values are no
list. -/
def ActiveFilter.ofDatum? : Datum → Option ActiveFilter
  | .object r =>
    let table := tableOf r
    let column := Record.get r "column"
    match Record.get r "values" with
    | .list values =>
      if table.truthy && column.truthy then some ⟨table.display, column.display, values⟩ else none
    | _ => none
  | _ => none

/-- The entries of filters given as a list or by key. -/
def entriesOf (filters : Datum) : Except Fault (List Datum) :=
  if !filters.truthy then .ok []
  else match filters with
    | .list entries => .ok entries
    | .object members => .ok (members.map (·.2))
    | .text _ => .ok []
    | _ => .error .wrongKind

/-- The filters that hold a value. -/
def withValues (filters : List ActiveFilter) : List ActiveFilter :=
  filters.filter fun f => !f.values.isEmpty

/-- The filters that entries mean, without those that hold no value. -/
def validFilters (entries : List Datum) : List ActiveFilter :=
  withValues (entries.filterMap ActiveFilter.ofDatum?)

end ChartBoard.Filtering
