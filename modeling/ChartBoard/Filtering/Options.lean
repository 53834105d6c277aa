import ChartBoard.Engine.Session
import ChartBoard.Filtering.Active
import ChartBoard.Widget.Compiled

/-!
# Values to filter by

* `options` are the values of a column under the filters on the other columns of its table.
-/

namespace ChartBoard.Filtering

open Engine (Session execute)

/-- The constraints that filters put on the other columns of a table. -/
def siblings (table column : String) (filters : List ActiveFilter) : Widget.Constraints :=
  Keyed.ofPairs (((withValues filters).filter fun f => f.table == table && f.column != column).map
    fun f => (f.column, .list f.values))

/-- The distinct values of a column, nulls aside, under the filters on the other columns. -/
def options (settings : Settings) (table column : String) (filters : List ActiveFilter)
    (limit : Datum) (schemas : List Schema.Table) : Session (List Datum) := do
  let q ← Task.ofExcept
    (Widget.distinctValues settings table column (siblings table column filters) limit schemas)
  let rows ← execute q.text
  return (rows.map fun row => Record.get row "value").filter (!·.isNull)

end ChartBoard.Filtering
