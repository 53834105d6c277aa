import Mathlib.Algebra.Order.Ring.Int
import ChartBoard.Proofs.Sql.Windows
import ChartBoard.Proofs.Widget.Compiled

/-!
# Windows of key figures

A key figure with a time column compares its value in the latest window of time with the value in
the window before.

* `one_le_of_window` says that a window is at least one unit long, whatever length is given.
* `compile_windows` is the result: the two windows of the compiled statement are adjacent, of the
  same length, and end with the latest moment, and in both of them the values are aggregated as a
  column is.
-/

namespace ChartBoard.Widget

open Relationship Sql Result

namespace Source

variable {settings : Settings} {s : Source} {edges : List Edge} {schemas : List Schema.Table}
  {constraints : Constraints} {path : JoinPath} {conditions : List Condition} {c : Compiled}
  {length : Nat} {unit : String}

theorem one_le_of_window (h : s.window settings = .ok (length, unit)) : 1 ≤ length := by
  unfold window at h
  extract_lets given _ _ at h
  split at h
  · obtain rfl : (max 1 given).toNat = length := congrArg Prod.fst (Except.ok.inj h)
    omega
  · cases h

theorem ofName_of_mem_supported {name : String} (h : name ∈ Aggregate.supported) :
    Aggregate.ofName name = Aggregate.ofCapitals name := by
  revert name
  decide +kernel

/-- Wherever a key figure with a time column is compiled, its windows are at least one unit long,
its two totals are taken of adjacent windows of the same length that end with the latest moment,
and either total, written with the values it is taken of, is the aggregate of the column. -/
theorem compile_windows (hcompiled : s.compile settings edges schemas constraints = .ok c)
    (hkind : s.kind = "kpi") (htime : s.timeField ≠ "") :
    ∃ n unit path y, ∃ w : WindowStatement, s.window settings = .ok (n, unit) ∧ 1 ≤ n ∧
      JoinPath.resolve s.baseTable (s.usedTables constraints) edges = .ok path ∧
      path.column (s.yFields.headD "") = .ok y ∧ c.sql = w.text ∧ w.unit = unit ∧
      (∀ (T : Type) [LinearOrder T] (back : Nat → T), StrictAnti back → w.Partitions n back) ∧
      ∀ p ∈ [w.current, w.previous], substituted "v" w.value p.measure =
        ((Aggregate.ofName s.aggregation).column y).pieces := by
  obtain ⟨haccepted, path, conditions, hpath, -, hquery⟩ := compile_eq_ok hcompiled
  have hkpi : s.kpiQuery settings path conditions = .ok c.query := by
    rcases hquery with ⟨-, -, hquery, -⟩ | ⟨hscatter, -⟩ | ⟨hother, -⟩
    · exact hquery
    · exact absurd (hkind.symm.trans hscatter) (by decide)
    · exact absurd hkind hother
  obtain ⟨y, hy, ⟨hempty, -⟩ | ⟨time, n, unit, -, -, hwindow, hq⟩⟩ := kpiQuery_eq_ok hkpi
  · exact absurd hempty htime
  have hlength := one_le_of_window hwindow
  rw [← ofName_of_mem_supported haccepted.aggregation] at hq
  generalize Aggregate.ofName s.aggregation = a at hq ⊢
  have hmeasure := substituted_outer a (a.input y)
  refine ⟨n, unit, path, y, windowStatement time.moment (a.input y) path.tables
    (.known time.moment :: conditions) (a.outer (.code "v")) n unit, hwindow, hlength, hpath, hy,
    ?_, rfl, ?_, ?_⟩
  · rw [Compiled.sql, hq, text_windows]
  · exact fun T _ back hback => partitions_windowStatement hlength hback
  · simpa [windowStatement, Window.total, Aggregate.column] using hmeasure

end Source

/-- A key figure over windows of minus three months. -/
def ordersByMonth : Source where
  tableName := "orders"
  xAxis := none
  yAxis := some (.one "customer")
  chartType := "KPI"
  options := { Options.none with
    aggregation := some "count_distinct"
    kpiTimeColumn := some "ordered"
    kpiWindowLength := some (-3)
    kpiWindowUnit := some " Months " }

/-- Its windows are one month long. -/
theorem compile_windows_months :
    ∃ c, ordersByMonth.compile {} [] [] [] = .ok c ∧ ordersByMonth.kind = "kpi" ∧
      ordersByMonth.timeField ≠ "" ∧
      ∃ y, ∃ w : WindowStatement, ordersByMonth.window {} = .ok (1, "month") ∧ c.sql = w.text ∧
        w.Partitions 1 (fun k : Nat => -(k : Int)) ∧
        ∀ p ∈ [w.current, w.previous], substituted "v" w.value p.measure =
          (Aggregate.countDistinct.column y).pieces := by
  have hcompiled : (ordersByMonth.compile {} [] [] []).toOption.isSome = true := by decide +kernel
  have hkind : ordersByMonth.kind = "kpi" := by decide +kernel
  have htime : ordersByMonth.timeField ≠ "" := by decide +kernel
  have hwindow : ordersByMonth.window {} = .ok (1, "month") := by decide +kernel
  have hback : ∀ a b : Nat, a < b → -(b : Int) < -(a : Int) := by omega
  cases hc : ordersByMonth.compile {} [] [] [] with
  | error fault => simp [hc, Except.toOption] at hcompiled
  | ok c =>
    obtain ⟨n, unit, path, y, w, hn, -, -, -, hsql, -, hpartitions, hmeasure⟩ :=
      Source.compile_windows hc hkind htime
    obtain ⟨rfl, rfl⟩ := Prod.mk.inj (Except.ok.inj (hwindow.symm.trans hn))
    have haggregate : Aggregate.ofName ordersByMonth.aggregation = .countDistinct := by
      decide +kernel
    rw [haggregate] at hmeasure
    exact ⟨c, rfl, hkind, htime, y, w, hwindow, hsql,
      hpartitions Int (fun k => -(k : Int)) fun a b h => hback a b h, hmeasure⟩

end ChartBoard.Widget
