import ChartBoard.Sql.Aggregate
import ChartBoard.Datum.Reading

/-!
# Queries

The statements of the dashboard: a table of measures, the total of a key figure, its totals in
two adjacent windows of time, and the distinct values of a column.

* `Query.text` is the statement as it is sent.
* `Window` is a window of time by its ends, each a number of units before the latest moment.
-/

namespace ChartBoard.Sql

/-! ## Values and conditions -/

/-- A value that a column is compared with. -/
inductive Literal where
  | number (digits : String)
  | text (s : String)
deriving DecidableEq, Repr

/-- The literal of a value: finite numbers stay bare, all else is text.  An integer beyond the
range of doubles is a fault. -/
def Literal.ofDatum : Datum → Except Fault Literal
  | .int n =>
    if (Number.ofInt? n).isSome then .ok (.number (toString n)) else .error .numberTooLarge
  | .float x =>
    .ok (if x.isFinite then .number (Number.floatText x) else .text (Number.floatText x))
  | v => .ok (.text v.label)

/-- The piece of a literal. -/
def Literal.piece : Literal → Piece
  | number digits => .number digits
  | text s => .text s

/-- A condition on rows. -/
inductive Condition where
  /-- No row. -/
  | never
  /-- The value is one of some literals. -/
  | oneOf (e : Expr) (values : List Literal)
  /-- The label of a point in time, by year, month or day, is one of some texts. -/
  | labelOneOf (e : Expr) (labels : List String)
  /-- The value is not null. -/
  | known (e : Expr)
deriving DecidableEq, Repr

/-- The formats of the labels of points in time. -/
def labelFormats : List String := ["%Y", "%Y/%m", "%Y/%m/%d"]

/-- The pieces of a list of literals after an expression. -/
def inList (e : List Piece) (values : List Literal) : List Piece :=
  e ++ .code " IN (" :: separated ", " (values.map fun v => [v.piece]) ++ [.code ")"]

/-- The pieces of a condition. -/
def Condition.pieces : Condition → List Piece
  | never => [.code "1=0"]
  | oneOf e values => inList e.pieces values
  | labelOneOf e labels =>
    .code "(" :: separated " OR " (labelFormats.map fun format =>
      inList (e.moment.formatted format).pieces (labels.map .text)) ++ [.code ")"]
  | known e => e.pieces ++ [.code " IS NOT NULL"]

/-- The pieces of the conditions that all must hold. -/
def whereAll (conditions : List Condition) : List Piece :=
  if conditions.isEmpty then []
  else .code " WHERE " :: separated " AND " (conditions.map Condition.pieces)

/-! ## Tables -/

/-- A table joined to the base table by the equality of two columns. -/
structure Join where
  table : String
  source : Nat
  baseColumn : String
  column : String
deriving DecidableEq, Repr

/-- The tables of a statement: the base table at position zero and the tables joined to it. -/
structure From where
  base : String
  joins : List Join
deriving DecidableEq, Repr

/-- The pieces of a join. -/
def Join.pieces (j : Join) : List Piece :=
  [.code "JOIN ", .name j.table, .code " ", .source j.source, .code " ON "]
    ++ (Expr.column 0 j.baseColumn).pieces ++ .code " = " :: (Expr.column j.source j.column).pieces

/-- The pieces of the tables. -/
def From.pieces (f : From) : List Piece :=
  separated " " ([.name f.base, .code " ", .source 0] :: f.joins.map Join.pieces)

/-- The tables as text. -/
def From.text (f : From) : String := render f.pieces

/-- An expression under an output name. -/
structure Item where
  expr : Expr
  name : String
deriving DecidableEq, Repr

/-- The pieces of an item. -/
def Item.pieces (i : Item) : List Piece := i.expr.pieces ++ [.code " AS ", .name i.name]

/-! ## Windows of time -/

/-- The ends of windows, computed once from the latest moment. -/
inductive WindowEnd where
  | latest
  | currentStart
  | previousStart
  | previousEnd
deriving DecidableEq, Repr

/-- How many window lengths an end lies before the latest moment. -/
def WindowEnd.lengths : WindowEnd → Nat
  | latest => 0
  | currentStart => 1
  | previousStart => 2
  | previousEnd => 1

/-- The name of an end. -/
def WindowEnd.name : WindowEnd → String
  | latest => "ranges.max_t"
  | currentStart => "start_curr"
  | previousStart => "start_prev"
  | previousEnd => "end_prev"

/-- The moments after one end and up to another. -/
structure Window where
  after : WindowEnd
  upTo : WindowEnd
deriving DecidableEq, Repr

/-- The window that ends with the latest moment. -/
def Window.current : Window := ⟨.currentStart, .latest⟩

/-- The window just before the current one. -/
def Window.previous : Window := ⟨.previousStart, .previousEnd⟩

/-- The pieces of a window's condition on the time `t`. -/
def Window.pieces (w : Window) : List Piece :=
  [.code s!"t > {w.after.name} AND t <= {w.upTo.name}"]

/-- The pieces of an end before the latest moment, for windows of some units. -/
def WindowEnd.pieces (e : WindowEnd) (length : Nat) (unit : String) : List Piece :=
  [.code "CAST(max_t AS TIMESTAMP) - INTERVAL ", .text s!"{length * e.lengths} {unit}",
    .code s!" AS {e.name}"]

/-! ## Statements -/

/-- The output name of the value of a key figure. -/
def currentValue : String := "current_value"

/-- The output name of the value of a key figure in the window before. -/
def previousValue : String := "previous_value"

/-- A query. -/
inductive Query where
  /-- Measures by rows, or by groups in the order of the first item. -/
  | table (items : List Item) (tables : From) (conditions : List Condition)
      (groups : Option (List Expr × Expr))
  /-- A key figure over all rows. -/
  | total (value : Expr) (tables : From) (conditions : List Condition)
  /-- A key figure in the current and the previous window of some units. -/
  | windows (time value : Expr) (tables : From) (conditions : List Condition)
      (measure : Expr) (length : Nat) (unit : String)
  /-- The distinct values of a column. -/
  | values (column table : String) (conditions : List Condition) (limit : Int)
deriving DecidableEq, Repr

/-- The pieces of a key figure in one window. -/
def windowTotal (measure : Expr) (w : Window) (name : String) : List Piece :=
  .code "COALESCE((SELECT " :: measure.pieces ++ .code " FROM base, ranges WHERE " :: w.pieces
    ++ [.code s!"), 0) AS {name}"]

/-- The pieces of a query. -/
def Query.pieces : Query → List Piece
  | table items tables conditions groups =>
    .code "SELECT " :: separated ", " (items.map Item.pieces) ++ .code " FROM " :: tables.pieces
      ++ whereAll conditions
      ++ (match groups with
        | none => []
        | some (by_, order) =>
          .code " GROUP BY " :: separated ", " (by_.map Expr.pieces)
            ++ .code " ORDER BY " :: order.pieces)
  | total value tables conditions =>
    .code "SELECT COALESCE(" :: value.pieces
      ++ .code s!", 0) AS {currentValue}, NULL AS {previousValue} FROM " :: tables.pieces
      ++ whereAll conditions
  | windows time value tables conditions measure length unit =>
    .code "WITH base AS (SELECT " :: time.pieces ++ .code " AS t, " :: value.pieces
      ++ .code " AS v FROM " :: tables.pieces ++ whereAll conditions
      ++ .code "), dates AS (SELECT MAX(t) AS max_t FROM base), "
        :: .code "ranges AS (SELECT CAST(max_t AS TIMESTAMP) AS max_t, "
        :: separated ", " ([WindowEnd.currentStart, .previousStart, .previousEnd].map
            fun e => e.pieces length unit)
      ++ .code " FROM dates) SELECT " :: windowTotal measure .current currentValue
      ++ .code ", " :: windowTotal measure .previous previousValue
  | values column from_ conditions limit =>
    [.code "SELECT ", .name column, .code " AS value FROM ", .name from_] ++ whereAll conditions
      ++ [.code " GROUP BY 1 ORDER BY 1 LIMIT ", .number (toString limit)]

/-- The statement as text. -/
def Query.text (q : Query) : String := render q.pieces

end ChartBoard.Sql
