import ChartBoard.Proofs.Relationship.Field
import ChartBoard.Proofs.Relationship.Resolution
import ChartBoard.Proofs.Sql.Reads
import ChartBoard.Proofs.Widget.Compiled

/-!
# The tables that a statement refers to

The tables of a widget are listed from its fields before any statement is written, and joined to its
base table in that order.  What the statement refers to later are columns of these tables: if they
can be joined at all, no further join is ever found to be missing, and every alias in the statement
is one that its tables declare.

* `JoinsFound` is true of a computation that does not fail for lack of a join.
* `Source.table_mem_names` says that every field belongs to a table that is joined.
* `Source.joinsFound_compile` says that nothing is missing once the listed tables are joined,
  `Source.within_compile` which aliases the statement uses.
* `Source.compile_missing_iff` is the result.
-/

namespace ChartBoard

/-! ## Columns of a path -/

namespace Relationship.JoinPath

open Sql

variable {p : JoinPath} {reference : String} {e : Expr}

/-- The positions of a path are those of its tables in order. -/
theorem mem_positions_tables {i : Nat} : i ∈ p.tables.positions ↔ i < p.names.length := by
  have hsources : p.tables.joins.map Join.source = (p.joined.zipIdx.map Prod.snd).map (· + 1) := by
    rw [tables, List.map_map, List.map_map]
    rfl
  rw [From.positions, hsources, List.zipIdx_map_snd, ← List.range_eq_range',
    ← List.range_succ_eq_map, List.mem_range, names, List.length_cons, List.length_map]

theorem exists_column (h : (Field.parse p.base reference).table ∈ p.names) :
    ∃ e, p.column reference = .ok e := by
  have hposition : (p.position? (Field.parse p.base reference).table).isSome := by
    simpa [position?] using h
  obtain ⟨i, hi⟩ := Option.isSome_iff_exists.mp hposition
  refine ⟨.column i (Field.parse p.base reference).column, ?_⟩
  simp only [column, hi]

theorem within_column (h : p.column reference = .ok e) : Within p.tables.positions e.pieces := by
  unfold column at h
  simp only at h
  split at h
  · rename_i i hi
    obtain rfl := Except.ok.inj h
    obtain ⟨hlt, -⟩ := List.findIdx?_eq_some_iff_getElem.mp hi
    exact Expr.within_column.mpr (mem_positions_tables.mpr hlt)
  · cases h

end Relationship.JoinPath

namespace Widget

open Relationship Sql Result

/-! ## Computations that find all joins -/

section

variable {α β : Type}

/-- True of a computation that does not fail for lack of a join. -/
def JoinsFound (r : Except Fault α) : Prop :=
  ∀ base table, r ≠ .error (.missingRelationship base table)

theorem joinsFound_ok (a : α) : JoinsFound (.ok a : Except Fault α) := nofun

theorem JoinsFound.of_error {fault : Fault} (h : JoinsFound (.error fault : Except Fault α)) :
    JoinsFound (.error fault : Except Fault β) :=
  fun base table hmissing => h base table (congrArg Except.error (Except.error.inj hmissing))

theorem JoinsFound.bind {x : Except Fault α} {f : α → Except Fault β} (hx : JoinsFound x)
    (hf : ∀ a, x = .ok a → JoinsFound (f a)) : JoinsFound (x >>= f) := by
  cases x with
  | error fault => exact hx.of_error
  | ok a => exact hf a rfl

theorem JoinsFound.map {x : Except Fault α} (hx : JoinsFound x) (f : α → β) :
    JoinsFound (x.map f) := by
  cases x with
  | error fault => exact hx.of_error
  | ok a => exact joinsFound_ok (f a)

theorem joinsFound_mapM {f : α → Except Fault β} {xs : List α}
    (hf : ∀ x ∈ xs, JoinsFound (f x)) : JoinsFound (xs.mapM f) := by
  induction xs with
  | nil => exact joinsFound_ok []
  | cons x xs ih =>
    rw [List.mapM_cons]
    refine (hf x List.mem_cons_self).bind fun y _ => ?_
    refine (ih fun x' hx' => hf x' (List.mem_cons_of_mem x hx')).bind fun ys _ => ?_
    exact joinsFound_ok (y :: ys)

end

theorem joinsFound_items (v : Datum) : JoinsFound v.items := by
  cases v <;> exact nofun

theorem joinsFound_literal (v : Datum) : JoinsFound (Literal.ofDatum v) := by
  unfold Literal.ofDatum
  split
  · split <;> exact nofun
  · exact nofun
  · exact nofun

theorem joinsFound_conditionOn (e : Expr) (values : List Datum) (temporal : Bool) :
    JoinsFound (conditionOn e values temporal) := by
  unfold conditionOn
  split
  · exact joinsFound_ok _
  · split
    · exact joinsFound_ok _
    · exact (joinsFound_mapM fun v _ => joinsFound_literal v).map _

theorem subject_of_conditionOn {e : Expr} {values : List Datum} {temporal : Bool} {c : Condition}
    (h : conditionOn e values temporal = .ok c) : ∀ e' ∈ c.subject?, e' = e := by
  unfold conditionOn at h
  split at h
  · obtain rfl := Except.ok.inj h
    exact nofun
  · split at h
    · obtain rfl := Except.ok.inj h
      exact fun e' he' => (Option.mem_some.mp he').symm
    · obtain ⟨literals, -, rfl⟩ := map_eq_ok.mp h
      exact fun e' he' => (Option.mem_some.mp he').symm

/-! ## The fields of a widget -/

namespace Source

variable {settings : Settings} {s : Source} {edges : List Edge} {schemas : List Schema.Table}
  {constraints : Constraints} {path : JoinPath} {conditions : List Condition} {c : Compiled}

/-- The table that a field of a widget belongs to. -/
def tableOf (s : Source) (field : String) : String := (Field.parse s.baseTable field).table

theorem tableOf_trim (s : Source) (field : String) :
    s.tableOf (Text.trim field) = s.tableOf field := by
  rw [tableOf, Field.parse_trim, tableOf]

theorem tableOf_of_blank {field : String} (h : Text.trim field = "") :
    s.tableOf field = s.baseTable := by
  rw [← tableOf_trim, h]
  rfl

/-- The first table without a join is that of the first field whose table has none. -/
theorem firstUnreached?_usedTables (s : Source) (edges : List Edge) (constraints : Constraints) :
    firstUnreached? s.baseTable edges (s.usedTables constraints) =
      firstUnreached? s.baseTable edges ((s.usedFields constraints).map s.tableOf) := by
  have hused : s.usedTables constraints = distinctTexts (((s.usedFields constraints).filter
      fun field => !(Text.trim field).isEmpty).map s.tableOf) := rfl
  rw [hused, firstUnreached?, firstUnreached?, find?_distinctTexts, List.find?_map,
    List.find?_filter, List.find?_map]
  refine congrArg (fun p => ((s.usedFields constraints).find? p).map s.tableOf)
    (funext fun field => ?_)
  -- a blank field is no reference, but what it would refer to is the base table
  by_cases hblank : Text.trim field = ""
  · simp [tableOf_of_blank hblank, reached_base]
  · simp [hblank]

/-! ## Nothing is missing once the listed tables are joined -/

section Joined

variable (hstar : path.IsStar s.baseTable (s.usedTables constraints) edges)
  (hnamed : ∀ field ∈ s.usedFields constraints, s.tableOf field ≠ "")

include hstar

theorem joinsFound_column {field : String} (h : s.tableOf field ∈ path.names) :
    JoinsFound (path.column field) := by
  have htable : (Field.parse path.base field).table ∈ path.names := by
    rw [hstar.base_eq]
    exact h
  obtain ⟨e, he⟩ := JoinPath.exists_column htable
  rw [he]
  exact joinsFound_ok e

theorem baseTable_mem_names : s.baseTable ∈ path.names :=
  hstar.names ▸ List.mem_cons_self

include hnamed

theorem table_mem_names {field : String} (hfield : field ∈ s.usedFields constraints) :
    s.tableOf field ∈ path.names := by
  by_cases hbase : s.tableOf field = s.baseTable
  · rw [hbase]
    exact baseTable_mem_names hstar
  · have hblank : (!(Text.trim field).isEmpty) = true := by
      simpa using mt tableOf_of_blank hbase
    have hused : s.tableOf field ∈ s.usedTables constraints :=
      mem_distinctTexts.mpr (List.mem_map_of_mem (List.mem_filter.mpr ⟨hfield, hblank⟩))
    rw [hstar.names]
    exact List.mem_cons_of_mem _ (mem_others.mpr ⟨hused, hnamed field hfield, hbase⟩)

/-- A field that is left out reads as one of the base table. -/
theorem table_trimmed_mem_names {given : Option String}
    (hgiven : ∀ field ∈ given, field ∈ s.usedFields constraints) :
    s.tableOf (trimmed given) ∈ path.names := by
  rw [trimmed, tableOf_trim]
  cases given with
  | none => exact baseTable_mem_names hstar
  | some field => exact table_mem_names hstar hnamed (hgiven field rfl)

theorem joinsFound_xField : JoinsFound (path.column s.xField) := by
  refine joinsFound_column hstar (table_trimmed_mem_names hstar hnamed fun field hfield => ?_)
  simp [usedFields, Option.mem_def.mp hfield]

theorem joinsFound_yField {field : String} (hfield : field ∈ s.yFields) :
    JoinsFound (path.column field) :=
  joinsFound_column hstar (table_mem_names hstar hnamed (by simp [usedFields, hfield]))

theorem joinsFound_timeField (hkind : s.kind = "kpi") : JoinsFound (path.column s.timeField) := by
  refine joinsFound_column hstar (table_trimmed_mem_names hstar hnamed fun field hfield => ?_)
  simp [usedFields, hkind, Option.mem_def.mp hfield]

theorem joinsFound_constraints (schemas : List Schema.Table) :
    JoinsFound (constraints.mapM (constraintCondition path schemas)) := by
  refine joinsFound_mapM fun constraint hconstraint => ?_
  have hfield : constraint.1 ∈ s.usedFields constraints :=
    List.mem_append_right _ (List.mem_map_of_mem hconstraint)
  refine (joinsFound_column hstar (table_mem_names hstar hnamed hfield)).bind fun e _ => ?_
  exact (joinsFound_items _).bind fun values _ => joinsFound_conditionOn e values _

theorem joinsFound_kpiQuery (haccepted : s.Accepted) (hkind : s.kind = "kpi") :
    JoinsFound (s.kpiQuery settings path conditions) := by
  have hfirst : s.yFields.headD "" ∈ s.yFields := by
    obtain ⟨field, rest, hfields⟩ := List.exists_cons_of_ne_nil haccepted.yFields
    simp [hfields]
  unfold kpiQuery
  refine (joinsFound_yField hstar hnamed hfirst).bind fun y _ => ?_
  split
  · exact joinsFound_ok _
  · refine JoinsFound.bind ?_ fun (length, unit) _ => ?_
    · unfold window
      extract_lets
      split
      · exact joinsFound_ok _
      · exact nofun
    · simp only
      split
      · exact nofun
      · exact (joinsFound_timeField hstar hnamed hkind).bind fun time _ => joinsFound_ok _

theorem joinsFound_scatterQuery : JoinsFound (s.scatterQuery path conditions) := by
  refine (joinsFound_xField hstar hnamed).bind fun x _ => ?_
  refine JoinsFound.bind ?_ fun ys _ => joinsFound_ok _
  exact joinsFound_mapM fun field hfield => joinsFound_yField hstar hnamed hfield

theorem joinsFound_axisQuery : JoinsFound (s.axisQuery path schemas conditions) := by
  refine (joinsFound_xField hstar hnamed).bind fun raw _ => ?_
  refine JoinsFound.bind ?_ fun series _ => JoinsFound.bind ?_ fun ys _ => joinsFound_ok _
  · refine joinsFound_mapM fun field hfield => joinsFound_column hstar ?_
    exact table_mem_names hstar hnamed (by simp [usedFields, Option.mem_toList.mp hfield])
  · exact joinsFound_mapM fun field hfield => joinsFound_yField hstar hnamed hfield

end Joined

/-- Where all listed tables can be joined, no join is found to be missing later. -/
theorem joinsFound_compile (hvalid : s.validate = .ok ())
    (hnamed : ∀ field ∈ s.usedFields constraints, s.tableOf field ≠ "")
    (hreached : firstUnreached? s.baseTable edges (s.usedTables constraints) = none) :
    JoinsFound (s.compile settings edges schemas constraints) := by
  have hrun := JoinPath.resolve_eq s.baseTable (s.usedTables constraints) edges
  rw [hreached] at hrun
  obtain ⟨path, hpath, hstar⟩ := hrun
  unfold compile
  rw [hvalid, hpath]
  refine JoinsFound.bind (joinsFound_ok ()) fun _ _ => ?_
  refine JoinsFound.bind (joinsFound_ok path) fun path' hpath' => ?_
  obtain rfl := Except.ok.inj hpath'
  refine (joinsFound_constraints hstar hnamed schemas).bind fun conditions _ => ?_
  split
  · rename_i hkind
    refine (joinsFound_kpiQuery hstar hnamed (accepted_of_validate hvalid)
      (beq_iff_eq.mp hkind)).bind fun q _ => joinsFound_ok _
  · split
    · exact joinsFound_scatterQuery hstar hnamed
    · exact joinsFound_axisQuery hstar hnamed

/-! ## The aliases of a statement -/

theorem within_conditions
    (h : constraints.mapM (constraintCondition path schemas) = .ok conditions) :
    ∀ d ∈ conditions, Within path.tables.positions d.pieces := by
  intro d hd
  obtain ⟨constraint, -, hcondition⟩ := of_mem_of_mapM_eq_ok h hd
  simp only [constraintCondition, bind_eq_ok] at hcondition
  obtain ⟨e, he, values, -, hcondition⟩ := hcondition
  refine Condition.within_pieces fun e' he' => ?_
  obtain rfl := subject_of_conditionOn hcondition e' he'
  exact JoinPath.within_column he

theorem within_columns {fields : List String} {es : List Expr}
    (h : fields.mapM path.column = .ok es) : ∀ e ∈ es, Within path.tables.positions e.pieces := by
  intro e he
  obtain ⟨field, -, hcolumn⟩ := of_mem_of_mapM_eq_ok h he
  exact JoinPath.within_column hcolumn

theorem within_measure {allowed : List Nat} {e : Expr} (h : Within allowed e.pieces) :
    Within allowed (s.measure e).pieces := by
  unfold measure
  split
  · simpa using h
  · exact Aggregate.within_column h _

theorem within_bucket {allowed : List Nat} {e : Expr} (h : Within allowed e.pieces)
    (g : Granularity) : Within allowed (bucket g e).pieces := by
  cases g <;> simp [bucket, Expr.pieces, h]

theorem within_items {allowed : List Nat} {es : List Expr} {names : List String} {f : Expr → Expr}
    (h : ∀ e ∈ es, Within allowed (f e).pieces) :
    ∀ i ∈ (es.zip names).map fun p => (⟨f p.1, p.2⟩ : Item), Within allowed i.expr.pieces := by
  intro i hi
  obtain ⟨⟨e, name⟩, hp, rfl⟩ := List.mem_map.mp hi
  exact h e (List.of_mem_zip hp).1

section Within

variable (hconditions : ∀ d ∈ conditions, Within path.tables.positions d.pieces)

include hconditions

theorem within_kpiQuery {q : Query} (h : s.kpiQuery settings path conditions = .ok q) :
    Within q.tables.positions q.pieces := by
  obtain ⟨y, hy, hq⟩ := kpiQuery_eq_ok h
  have hyWithin := JoinPath.within_column hy
  rcases hq with ⟨-, rfl⟩ | ⟨time, length, unit, -, htime, -, rfl⟩
  · exact Query.within_total hconditions (Aggregate.within_column hyWithin _)
  · have htimeWithin : Within path.tables.positions time.moment.pieces :=
      Expr.within_moment.mpr (JoinPath.within_column htime)
    refine Query.within_windows (fun d hd => ?_) htimeWithin (Aggregate.within_input hyWithin _)
      (Aggregate.within_outer (by simp [Expr.pieces]) _) length unit
    rcases List.mem_cons.mp hd with rfl | hd
    · exact Condition.within_pieces fun e he => (Option.mem_some.mp he) ▸ htimeWithin
    · exact hconditions d hd

theorem within_scatterQuery (h : s.scatterQuery path conditions = .ok c) :
    Within c.query.tables.positions c.query.pieces := by
  obtain ⟨x, ys, names, hx, hys, -, rfl⟩ := scatterQuery_eq_ok h
  refine Query.within_table hconditions (within_items fun e he => ?_) nofun
  rw [Expr.within_numeric]
  rcases List.mem_cons.mp he with rfl | he
  · exact JoinPath.within_column hx
  · exact within_columns hys e he

theorem within_axisQuery (h : s.axisQuery path schemas conditions = .ok c) :
    Within c.query.tables.positions c.query.pieces := by
  obtain ⟨raw, series, ys, x, names, groups, hraw, hseries, hys, hx, hgroups, -, hc⟩ :=
    axisQuery_eq_ok h
  have hxWithin : Within path.tables.positions x.pieces := by
    have hrawWithin := JoinPath.within_column hraw
    generalize s.granularity = g at hx
    rcases hx with rfl | rfl
    · exact hrawWithin
    · exact within_bucket hrawWithin _
  have hseriesWithin := within_columns hseries
  have hcolumns : ∀ e ∈ x :: series ++ ys.map s.measure,
      Within path.tables.positions (id e).pieces := by
    intro e he
    rw [id_eq]
    rcases List.mem_append.mp he with he | he
    · rcases List.mem_cons.mp he with rfl | he
      · exact hxWithin
      · exact hseriesWithin e he
    · obtain ⟨y, hy, rfl⟩ := List.mem_map.mp he
      exact within_measure (within_columns hys y hy)
  have hquery := congrArg Compiled.query hc
  rw [hquery]
  refine Query.within_table hconditions (within_items hcolumns) fun p hp => ?_
  rw [hgroups p hp]
  exact ⟨List.forall_mem_cons.mpr ⟨hxWithin, hseriesWithin⟩, hxWithin⟩

end Within

/-- Every alias in the statement of a widget is declared by the tables of the statement. -/
theorem within_compile (h : s.compile settings edges schemas constraints = .ok c) :
    Within c.query.tables.positions c.query.pieces := by
  obtain ⟨-, path, conditions, -, hconditions, hquery⟩ := compile_eq_ok h
  have hwithin := within_conditions hconditions
  rcases hquery with ⟨-, -, hq, -⟩ | ⟨-, hq⟩ | ⟨-, -, hq⟩
  · exact within_kpiQuery hwithin hq
  · exact within_scatterQuery hwithin hq
  · exact within_axisQuery hwithin hq

/-! ## The result -/

theorem not_reached_iff {table : String} : ¬ Reached s.baseTable edges table ↔
    table ≠ "" ∧ table ≠ s.baseTable ∧ ¬ Neighbour s.baseTable edges table := by
  simp [Reached]

/-- A compilation names a missing join exactly if there is a listed table that cannot be joined, and
then the first one. -/
theorem compile_eq_missing_iff (hvalid : s.validate = .ok ())
    (hnamed : ∀ field ∈ s.usedFields constraints, s.tableOf field ≠ "") (base table : String) :
    s.compile settings edges schemas constraints = .error (.missingRelationship base table) ↔
      base = s.baseTable ∧
        firstUnreached? s.baseTable edges (s.usedTables constraints) = some table := by
  cases hfirst : firstUnreached? s.baseTable edges (s.usedTables constraints) with
  | none =>
    have hfound : JoinsFound (s.compile settings edges schemas constraints) :=
      joinsFound_compile hvalid hnamed hfirst
    simpa using hfound base table
  | some first =>
    have hrun := JoinPath.resolve_eq s.baseTable (s.usedTables constraints) edges
    rw [hfirst] at hrun
    have hcompiled : s.compile settings edges schemas constraints =
        .error (.missingRelationship s.baseTable first) := by
      unfold compile
      rw [hvalid, hrun]
      rfl
    rw [hcompiled]
    simp [eq_comm]

/-- Of a valid widget whose fields all name a table, the compilation names a missing join exactly if
a table of its fields is neither the base table nor a neighbour of it, and then the first such table
in the order of the fields.  Whatever is compiled refers to tables of its statement alone. -/
theorem compile_missing_iff (settings : Settings) (s : Source) (edges : List Edge)
    (schemas : List Schema.Table) (constraints : Constraints) (hvalid : s.validate = .ok ())
    (hnamed : ∀ field ∈ s.usedFields constraints, s.tableOf field ≠ "") :
    let fields := s.xAxis.toList ++ s.yFields ++ s.seriesBy.toList ++
      (if s.kind = "kpi" then s.options.kpiTimeColumn.toList ++ s.options.kpiFilterXAxis.toList
        else []) ++ constraints.map (·.1)
    ((∃ base table,
        s.compile settings edges schemas constraints = .error (.missingRelationship base table)) ↔
      ∃ table ∈ s.usedTables constraints,
        table ≠ s.baseTable ∧ ¬ Neighbour s.baseTable edges table) ∧
    (∀ base table,
      s.compile settings edges schemas constraints = .error (.missingRelationship base table) ↔
        base = s.baseTable ∧
          firstUnreached? s.baseTable edges (fields.map s.tableOf) = some table) ∧
    ∀ c, s.compile settings edges schemas constraints = .ok c →
      ∀ i, Piece.source i ∈ c.query.pieces → i ∈ c.query.tables.positions := by
  intro fields
  have hfields : s.usedFields constraints = fields := by
    simp only [usedFields, beq_iff_eq, fields]
  refine ⟨?_, fun base table => ?_, fun c hc => within_compile hc⟩
  · simp only [compile_eq_missing_iff hvalid hnamed, exists_and_left, exists_eq_left]
    constructor
    · rintro ⟨table, hfirst⟩
      obtain ⟨hused, hnot⟩ := not_reached_of_firstUnreached? hfirst
      exact ⟨table, hused, (not_reached_iff.mp hnot).2⟩
    · rintro ⟨table, hused, hother⟩
      have hne : table ≠ "" := by
        obtain ⟨field, hfield, rfl⟩ := List.mem_map.mp (mem_distinctTexts.mp hused)
        exact hnamed field (List.mem_filter.mp hfield).1
      refine Option.ne_none_iff_exists'.mp fun hnone => ?_
      exact not_reached_iff.mpr ⟨hne, hother⟩ (firstUnreached?_eq_none.mp hnone table hused)
  · rw [compile_eq_missing_iff hvalid hnamed, firstUnreached?_usedTables, hfields]

/-- The credit limits of the customers by the dates of their orders, linked to the cities. -/
def linkedTotal : Source where
  tableName := "orders"
  xAxis := none
  yAxis := some (.one "customers.limit")
  chartType := "kpi"
  options := { Options.none with
    kpiTimeColumn := some "orders.date", kpiFilterXAxis := some "cities.name" }

/-- Orders joined to the customers, from their side. -/
def customersEdge : Edge :=
  ⟨⟨"customers", "id"⟩, ⟨"orders", "customer"⟩, .text confirmedStatus, .null⟩

/-- Orders joined to the cities that they go to. -/
def citiesEdge : Edge :=
  ⟨⟨"orders", "city"⟩, ⟨"cities", "id"⟩, .text confirmedStatus, .null⟩

/-- The cities are missing although the statement would read the link to them nowhere. -/
theorem compile_missing_iff_linked :
    linkedTotal.compile {} [customersEdge] [] [("regions.name", .list [.text "North"])] =
        .error (.missingRelationship "orders" "cities") ∧
      ∃ c, linkedTotal.compile {} [customersEdge, citiesEdge] [] [("customers.name", .list [])] =
          .ok c ∧
        ∀ i, Piece.source i ∈ c.query.pieces → i ∈ c.query.tables.positions := by
  obtain ⟨-, hmissing, -⟩ := compile_missing_iff {} linkedTotal [customersEdge] []
    [("regions.name", .list [.text "North"])] (by decide) (by decide)
  obtain ⟨-, -, hdeclared⟩ := compile_missing_iff {} linkedTotal [customersEdge, citiesEdge] []
    [("customers.name", .list [])] (by decide) (by decide)
  refine ⟨(hmissing "orders" "cities").mpr ⟨by decide, by decide⟩, ?_⟩
  have hcompiled : (linkedTotal.compile {} [customersEdge, citiesEdge] []
      [("customers.name", .list [])]).toOption.isSome = true := by decide +kernel
  obtain ⟨c, hc⟩ := Option.isSome_iff_exists.mp hcompiled
  exact ⟨c, toOption_eq_some.mp hc, hdeclared c (toOption_eq_some.mp hc)⟩

end Source

end Widget

end ChartBoard
