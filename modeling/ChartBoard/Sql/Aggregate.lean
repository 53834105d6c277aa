import ChartBoard.Sql.Expr
import ChartBoard.Text.Case

/-!
# Aggregates

How the values of a group become one.  Counts read the raw column, so that text columns keep exact
counts; everything else reads it as a number.

* `Aggregate.ofName` reads a name, `Aggregate.column` is the aggregate of a column.
* `Aggregate.input` and `Aggregate.outer` split that expression in two, for a value that is
  computed first and aggregated later.
-/

namespace ChartBoard.Sql

/-- A way to aggregate. -/
inductive Aggregate where
  /-- No aggregation where rows can stand for themselves, else the sum. -/
  | rowLevel
  | countRows
  | count
  | countDistinct
  /-- A function of the numbers. -/
  | function (name : String)
deriving DecidableEq, Repr

namespace Aggregate

/-- The aggregate that a name in capitals stands for. -/
def ofCapitals (name : String) : Aggregate :=
  if name == "COUNT_ROWS" then countRows
  else if name == "COUNT" then count
  else if name == "COUNT_DISTINCT" then countDistinct
  else if name == "NONE" then rowLevel
  else function name

/-- The aggregate that a name in any case stands for. -/
def ofName (name : String) : Aggregate := ofCapitals (Text.upper name)

/-- The names of the aggregates a widget may ask for. -/
def supported : List String :=
  ["SUM", "COUNT", "COUNT_DISTINCT", "COUNT_ROWS", "AVG", "MIN", "MAX", "NONE"]

/-- What is aggregated of a column. -/
def input (a : Aggregate) (e : Expr) : Expr :=
  match a with
  | countRows => .code "1"
  | count | countDistinct => e
  | rowLevel | function _ => e.numeric

/-- The aggregate of values computed before. -/
def outer (a : Aggregate) (e : Expr) : Expr :=
  match a with
  | countRows => .countRows
  | count => .call "COUNT" e
  | countDistinct => .countDistinct e
  | rowLevel => .call "SUM" e
  | function name => .call name e

/-- The aggregate of a column. -/
def column (a : Aggregate) (e : Expr) : Expr := a.outer (a.input e)

end Aggregate

end ChartBoard.Sql
