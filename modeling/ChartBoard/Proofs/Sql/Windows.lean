import Mathlib.Order.Interval.Set.Disjoint
import Mathlib.Order.Interval.Set.LinearOrder
import Mathlib.Order.Monotone.Defs
import ChartBoard.Proofs.Sql.Mention

/-!
# Windows of time in a statement

A statement with windows computes the ends of the windows once, in the columns of `ranges`, and
takes one total of the rows of `base` for each window, on a condition that names these columns.

* `WindowStatement` is such a statement by its parts, and `text_windows` says that a query with
  windows is written as one.
* `WindowStatement.window` are the moments that meet the condition of a total, read word by word,
  with each name standing for what `ranges` defines it as.
* `partitions_windowStatement` says that the two windows are adjacent and end with the latest
  moment.
* `substituted_outer` says that the aggregate of the values of `base` is the aggregate of the
  column that they come from.
-/

namespace ChartBoard.Sql

/-! ## The parts of a statement -/

/-- A column of `ranges`: a number of units before the latest moment. -/
structure RangeEnd where
  name : String
  count : Nat

/-- The total of a measure over the rows that meet a condition. -/
structure PeriodTotal where
  measure : List Piece
  condition : String

/-- A statement with windows by its parts.  The ends all count the same unit. -/
structure WindowStatement where
  time : List Piece
  value : List Piece
  rows : List Piece
  unit : String
  ends : List RangeEnd
  current : PeriodTotal
  previous : PeriodTotal

/-- The pieces of an end. -/
def RangeEnd.pieces (unit : String) (e : RangeEnd) : List Piece :=
  [.code "CAST(max_t AS TIMESTAMP) - INTERVAL ", .text (intervalText e.count unit),
    .code s!" AS {e.name}"]

/-- The pieces of a total under its output name. -/
def PeriodTotal.pieces (name : String) (p : PeriodTotal) : List Piece :=
  .code "COALESCE((SELECT " :: p.measure
    ++ [.code " FROM base, ranges WHERE ", .code p.condition, .code s!"), 0) AS {name}"]

namespace WindowStatement

/-- The pieces of a statement with windows. -/
def pieces (w : WindowStatement) : List Piece :=
  .code "WITH base AS (SELECT " :: w.time ++ .code " AS t, " :: w.value
    ++ .code " AS v FROM " :: w.rows ++ .code "), dates AS (SELECT MAX(t) AS max_t FROM base), "
      :: .code "ranges AS (SELECT CAST(max_t AS TIMESTAMP) AS max_t, "
      :: separated ", " (w.ends.map (RangeEnd.pieces w.unit))
    ++ .code " FROM dates) SELECT " :: w.current.pieces currentValue
    ++ .code ", " :: w.previous.pieces previousValue

/-- The text of a statement with windows. -/
def text (w : WindowStatement) : String := render w.pieces

end WindowStatement

/-! ## Reading conditions -/

section

variable {T : Type} [LinearOrder T]

/-- The truth of a comparison of two moments. -/
def compared? (operator : String) (a b : T) : Option Bool :=
  if operator = "=" then some (a = b)
  else if operator = "<" then some (a < b)
  else if operator = "<=" then some (a ≤ b)
  else if operator = ">" then some (b < a)
  else if operator = ">=" then some (b ≤ a)
  else none

/-- The truth of comparisons joined by `AND`, given the moments that names stand for. -/
def holds? (moment? : String → Option T) : List String → Option Bool
  | [left, operator, right] => do compared? operator (← moment? left) (← moment? right)
  | left :: operator :: right :: "AND" :: rest => do
    return (← compared? operator (← moment? left) (← moment? right)) && (← holds? moment? rest)
  | _ => none

/-- The words of a condition. -/
def conditionWords (condition : String) : List String :=
  (Text.pieces ' ' condition.toList).map String.ofList

namespace WindowStatement

/-- The moment that a name stands for beside a row at `t`, with `back k` for the moment `k` units
before the latest one. -/
def moment? (w : WindowStatement) (back : Nat → T) (t : T) (name : String) : Option T :=
  if name = "t" then some t
  else if name = "ranges.max_t" then some (back 0)
  else (w.ends.find? (·.name == name)).map fun e => back e.count

/-- The moments of the rows that a total is taken of. -/
def window (w : WindowStatement) (back : Nat → T) (p : PeriodTotal) : Set T :=
  { t | holds? (w.moment? back t) (conditionWords p.condition) = some true }

/-- True when the windows of the two totals have no moment in common, are together the last `2 * n`
units up to the latest moment, and the latest moment is in the current one. -/
structure Partitions (w : WindowStatement) (n : Nat) (back : Nat → T) : Prop where
  disjoint : w.window back w.current ∩ w.window back w.previous = ∅
  union : w.window back w.current ∪ w.window back w.previous = Set.Ioc (back (2 * n)) (back 0)
  latest : back 0 ∈ w.window back w.current

end WindowStatement

end

/-! ## Statements with windows -/

/-- The condition of a window as text. -/
def Window.condition (w : Window) : String := s!"t > {w.after.name} AND t <= {w.upTo.name}"

/-- The total in a window. -/
def Window.total (measure : Expr) (w : Window) : PeriodTotal := ⟨measure.pieces, w.condition⟩

/-- The parts of a query with windows. -/
def windowStatement (time value : Expr) (tables : From) (conditions : List Condition)
    (measure : Expr) (length : Nat) (unit : String) : WindowStatement where
  time := time.pieces
  value := value.pieces
  rows := tables.pieces ++ whereAll conditions
  unit := unit
  ends := [WindowEnd.currentStart, .previousStart, .previousEnd].map fun e =>
    ⟨e.name, length * e.lengths⟩
  current := Window.current.total measure
  previous := Window.previous.total measure

variable {time value measure : Expr} {tables : From} {conditions : List Condition} {length : Nat}
  {unit : String}

theorem text_windows :
    (Query.windows time value tables conditions measure length unit).text =
      (windowStatement time value tables conditions measure length unit).text := by
  rw [Query.text, WindowStatement.text]
  congr 1
  simp only [Query.pieces, WindowStatement.pieces, windowStatement, windowTotal, Window.pieces,
    Window.total, PeriodTotal.pieces, List.map_map, Function.comp_def, List.cons_append,
    List.nil_append, List.append_assoc]
  rfl

section

variable {T : Type} {back : Nat → T}

/-- The end of a window is the moment as many units back as the window lengths make. -/
theorem moment?_windowStatement (t : T) (e : WindowEnd) :
    (windowStatement time value tables conditions measure length unit).moment? back t e.name =
      some (back (length * e.lengths)) := by
  cases e <;> simp [WindowStatement.moment?, windowStatement, WindowEnd.name, WindowEnd.lengths]

variable [LinearOrder T]

theorem conditionWords_condition (w : Window) :
    conditionWords w.condition = ["t", ">", w.after.name, "AND", "t", "<=", w.upTo.name] := by
  obtain ⟨after, upTo⟩ := w
  cases after <;> cases upTo <;> decide +kernel

/-- The moments in a window are those after one of its ends and up to the other. -/
theorem window_total (w : Window) :
    (windowStatement time value tables conditions measure length unit).window back
        (w.total measure) =
      Set.Ioc (back (length * w.after.lengths)) (back (length * w.upTo.lengths)) := by
  ext t
  have ht : (windowStatement time value tables conditions measure length unit).moment? back t "t" =
      some t := rfl
  simp [WindowStatement.window, Window.total, conditionWords_condition, holds?, compared?, ht,
    moment?_windowStatement]

theorem window_current :
    (windowStatement time value tables conditions measure length unit).window back
        (windowStatement time value tables conditions measure length unit).current =
      Set.Ioc (back length) (back 0) := by
  refine (window_total .current).trans ?_
  simp [Window.current, WindowEnd.lengths]

theorem window_previous :
    (windowStatement time value tables conditions measure length unit).window back
        (windowStatement time value tables conditions measure length unit).previous =
      Set.Ioc (back (2 * length)) (back length) := by
  refine (window_total .previous).trans ?_
  simp [Window.previous, WindowEnd.lengths, Nat.mul_comm]

/-- Two windows of some units are adjacent and end with the latest moment. -/
theorem partitions_windowStatement (hlength : 1 ≤ length) (hback : StrictAnti back) :
    (windowStatement time value tables conditions measure length unit).Partitions length back := by
  have hlatest : back length < back 0 := hback hlength
  have hstart : back (2 * length) ≤ back length := hback.antitone (by omega)
  constructor
  · rw [window_current, window_previous]
    exact (Set.Ioc_disjoint_Ioc_of_le le_rfl).symm.inter_eq
  · rw [window_current, window_previous, Set.union_comm]
    exact Set.Ioc_union_Ioc_eq_Ioc hstart hlatest.le
  · rw [window_current]
    exact ⟨hlatest, le_rfl⟩

end

/-! ## Aggregates of computed values -/

/-- The pieces with a word of code replaced by other pieces. -/
def substituted (word : String) (ps : List Piece) (inside : List Piece) : List Piece :=
  inside.flatMap fun p => if p = .code word then ps else [p]

/-- The aggregate of values computed before is the aggregate of what they are computed by. -/
theorem substituted_outer (a : Aggregate) (e : Expr) :
    substituted "v" e.pieces (a.outer (.code "v")).pieces = (a.outer e).pieces := by
  cases a with
  | countRows => rfl
  | rowLevel | count => simp [substituted, Aggregate.outer, Expr.pieces, toString]
  | countDistinct => simp [substituted, Aggregate.outer, Expr.pieces]
  | function name =>
    -- the bracket after the name keeps the code from being the word that is replaced
    have hne : name ++ "(" ≠ "v" := fun h => by
      have hlast := congrArg (fun s => s.toList.getLast?) h
      simp at hlast
    simp [substituted, Aggregate.outer, Expr.pieces, toString, hne]

end ChartBoard.Sql
