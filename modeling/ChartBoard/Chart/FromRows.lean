import ChartBoard.Chart.Amount
import ChartBoard.Datum.Items
import ChartBoard.Settings
import ChartBoard.Text.Search

/-!
# Charts of tables of unknown shape

A bar chart that can be drawn of any rows: the first column names the bars, the first column with a
number in it gives their heights.  Without such a column the bars count how often each name occurs.

* `numericColumns` lists the columns with a number in them.
* `mostFrequent` is the ranking behind the counts.
* `chartOfRows` is the chart.
-/

namespace ChartBoard.Chart

/-- The value of a row in a column.  Only objects are rows. -/
def cell (name : String) : Datum → Except Fault Datum
  | .object row => .ok (Record.get row name)
  | _ => .error .noOperation

/-- True when some row has a number in a column.  Rows after the first such are not looked at. -/
def hasNumber (name : String) : List Datum → Except Fault Bool
  | [] => .ok false
  | row :: rest => do
    if (← (← cell name row).number?).isSome then return true else hasNumber name rest

/-- The columns of the first row, without `skip`, in which some row has a number. -/
def numericColumns (rows : List Datum) (skip : Option String) : Except Fault (List String) :=
  match rows with
  | [] => .ok []
  | .object first :: _ =>
    let names := (Record.names first).filter fun name => some name != skip
    names.filterM fun name => hasNumber name rows
  | _ => .error .noOperation

/-! ## Counting -/

/-- The counts with one more occurrence of a name, which is added at the end if it is new. -/
def countOne (counts : List (String × Nat)) (name : String) : List (String × Nat) :=
  match counts with
  | [] => [(name, 1)]
  | (key, n) :: rest => if key = name then (key, n + 1) :: rest else (key, n) :: countOne rest name

/-- How often each name occurs, in the order of their first occurrences. -/
def countsOf (names : List String) : List (String × Nat) := names.foldl countOne []

/-- The names with their counts, the most frequent first and equal counts in the order of first
occurrence, down to a rank. -/
def mostFrequent (rank : Int) (names : List String) : List (String × Nat) :=
  Text.capped rank ((countsOf names).mergeSort fun a b => b.2 ≤ a.2)

/-- The name of a row in the counts. -/
def countedName (v : Datum) : String := if v.isNull then "No value" else v.display

/-! ## The chart -/

/-- A bar chart with a single series. -/
def barChart (title : Datum) (categories : List String) (xName yName : String)
    (values : List Datum) : Record :=
  [("title", .object [("text", title)]),
   ("xAxis", .object [("data", .texts categories), ("name", .text xName)]),
   ("yAxis", .object [("name", .text yName)]),
   ("series", .list [.object [("type", .text "bar"), ("name", .text yName),
     ("data", .list values)]])]

/-- The title of charts that nobody named. -/
def generatedTitle : Datum := .text "Generated chart"

/-- The chart of rows of which the first has a column `x`. -/
def chartOfColumns (settings : Settings) (title : Datum) (x : String) (rows : List Datum) :
    Except Fault Record := do
  match ← numericColumns rows none with
  | y :: _ =>
    let shown := Text.capped settings.fallbackTop rows
    let categories ← shown.mapM fun row => return (← cell x row).label
    let values ← shown.mapM fun row => do return .float (← (← cell y row).number)
    return barChart title categories x y values
  | [] =>
    let names ← rows.mapM fun row => return countedName (← cell x row)
    let top := mostFrequent settings.fallbackTop names
    let title := title.display ++ " (count)"
    return barChart (.text title) (top.map (·.1)) x "Count" (top.map fun c => .int c.2)

/-- The rows that a value lists; none when it reads as false.  An object lists none. -/
def rowsOf (v : Datum) : Except Fault (List Datum) :=
  match v with
  | .object (_ :: _) => .error (.noMember "0")
  | v => v.itemsIfAny

/-- The chart of rows, if the first of them has a column. -/
def chartOfRows (settings : Settings) (title rows : Datum) : Except Fault (Option Record) := do
  match ← rowsOf rows with
  | .object ((x, v) :: first) :: rest =>
    return some (← chartOfColumns settings title x (.object ((x, v) :: first) :: rest))
  | _ => return none

end ChartBoard.Chart
