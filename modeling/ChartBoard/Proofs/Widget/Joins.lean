import ChartBoard.Proofs.Relationship.Star
import ChartBoard.Widget.Compiled

/-!
# Joins of compiled widgets

A compiled widget shows of the relationships only the joins it uses.

* `compile_rearranged` says that a list of edges can be rearranged in every way that leaves the
  joins of the base table alone without any change to the query or to the fault.
-/

namespace ChartBoard.Widget

open Relationship Sql

variable {s : Source} {p q : JoinPath}

theorem constraintCondition_of_legs (h : p.legs = q.legs) (schemas : List Schema.Table) :
    constraintCondition p schemas = constraintCondition q schemas := by
  funext constraint
  unfold constraintCondition
  rw [JoinPath.column_of_legs h, JoinPath.base_of_legs h]

namespace Source

theorem kpiQuery_of_legs (h : p.legs = q.legs) (settings : Settings)
    (conditions : List Condition) :
    s.kpiQuery settings p conditions = s.kpiQuery settings q conditions := by
  unfold kpiQuery
  rw [JoinPath.column_of_legs h, JoinPath.tables_of_legs h]

theorem scatterQuery_of_legs (h : p.legs = q.legs) (conditions : List Condition) :
    s.scatterQuery p conditions = s.scatterQuery q conditions := by
  unfold scatterQuery
  rw [JoinPath.column_of_legs h, JoinPath.tables_of_legs h]

theorem axisQuery_of_legs (h : p.legs = q.legs) (schemas : List Schema.Table)
    (conditions : List Condition) :
    s.axisQuery p schemas conditions = s.axisQuery q schemas conditions := by
  unfold axisQuery
  rw [JoinPath.column_of_legs h, JoinPath.tables_of_legs h]

/-- Compilation follows from the join columns of the base table. -/
theorem compile_of_joinColumns {edges edges' : List Edge}
    (hcolumns : ∀ table ≠ s.baseTable, joinColumns? s.baseTable edges table =
      joinColumns? s.baseTable edges' table) (settings : Settings) (schemas : List Schema.Table)
    (constraints : Constraints) :
    s.compile settings edges schemas constraints = s.compile settings edges' schemas constraints := by
  unfold compile
  refine bind_congr fun _ => ?_
  refine Result.bind_eq_of_map_eq (JoinPath.resolve_legs hcolumns _) fun p q _ h => ?_
  rw [constraintCondition_of_legs h]
  refine bind_congr fun conditions => ?_
  rw [kpiQuery_of_legs h, scatterQuery_of_legs h, axisQuery_of_legs h]

end Source

/-- Reversed edges, other cardinalities and more or fewer edges that are not confirmed or do not
join the base table to another one change nothing: the widget is compiled to the same query with
the same output names, or fails by the same fault. -/
theorem compile_rearranged (settings : Settings) (s : Source) {edges edges' : List Edge}
    (h : Rearranged s.baseTable edges edges') (schemas : List Schema.Table)
    (constraints : Constraints) :
    s.compile settings edges schemas constraints = s.compile settings edges' schemas constraints :=
  s.compile_of_joinColumns (fun _ htable => joinColumns?_rearranged h htable) settings schemas
    constraints

/-- Sales by the city of the customer. -/
def citySource : Source where
  tableName := "orders"
  xAxis := some "customers.city"
  yAxis := some (.one "total")
  chartType := "bar"
  options := Options.none

/-- The customer of an order. -/
def customerEdge : Edge :=
  ⟨⟨"orders", "customer"⟩, ⟨"customers", "id"⟩, .text confirmedStatus, .text defaultCardinality⟩

/-- The order that an order replaces. -/
def replacedEdge : Edge :=
  ⟨⟨"orders", "replaces"⟩, ⟨"orders", "id"⟩, .text confirmedStatus, .text "one-to-one"⟩

/-- The customer of an order, seen from the customer. -/
def ordersEdge : Edge := { customerEdge.reversed with cardinality := .text "many-to-many" }

theorem compile_rearranged_orders :
    Rearranged citySource.baseTable [customerEdge] [replacedEdge, ordersEdge] ∧
      (citySource.compile {} [customerEdge] [] []).toOption.isSome = true ∧
      citySource.compile {} [customerEdge] [] [] =
        citySource.compile {} [replacedEdge, ordersEdge] [] [] := by
  have hbase : citySource.baseTable = "orders" := by decide
  have hunused : replacedEdge.Unused citySource.baseTable := by
    refine Or.inr fun table htable => ?_
    rw [hbase] at htable ⊢
    simpa [Edge.connects, replacedEdge] using Ne.symm htable
  have h : Rearranged citySource.baseTable [customerEdge] [replacedEdge, ordersEdge] :=
    .tail (.tail (.single (.reverse [] customerEdge []))
      (.relabel [] customerEdge.reversed (.text "many-to-many") [])) (.insert [] hunused [ordersEdge])
  exact ⟨h, by decide, compile_rearranged {} citySource h [] []⟩

end ChartBoard.Widget
