import ChartBoard.Proofs.Relationship.JoinPath
import ChartBoard.Proofs.Sql.Sealed
import ChartBoard.Proofs.Widget.Compiled

/-!
# Statements of widgets

Whatever names and values a widget is given, they stay between the quotes of its statement.

* `Source.given` and `valuesGiven` list what the two kinds of statements are given.
* `Source.compile_uses` and `distinctValues_uses` say that the statements are made of that and of
  fixed words.
* `statements_sealed` is the result.
-/

namespace ChartBoard.Widget

open Relationship Sql Result

/-! ## Conditions -/

/-- The texts of the values that constraints allow. -/
def allowedTexts (constraints : Constraints) : List String :=
  constraints.flatMap fun p => (p.2.items.toOption.getD []).map Datum.display

theorem display_mem_allowedTexts {constraints : Constraints} {p : String × Datum}
    (hp : p ∈ constraints) {items : List Datum} (hitems : p.2.items = .ok items) {v : Datum}
    (hv : v ∈ items) : v.display ∈ allowedTexts constraints := by
  refine List.mem_flatMap.mpr ⟨p, hp, ?_⟩
  rw [hitems]
  exact List.mem_map_of_mem hv

variable {g : Given}

theorem literal_uses {v : Datum} {l : Literal} (hv : v.display ∈ g.values)
    (hnull : v.isNull = false) (h : Literal.ofDatum v = .ok l) : l.Uses g := by
  unfold Literal.ofDatum at h
  split at h
  · rename_i n
    split at h
    · obtain rfl := Except.ok.inj h
      exact Or.inl ⟨n, rfl⟩
    · cases h
  · rename_i x
    obtain rfl := Except.ok.inj h
    split
    · rename_i hfinite
      exact Or.inr (Or.inl ⟨x, hfinite, rfl⟩)
    · exact hv
  · obtain rfl := Except.ok.inj h
    simpa [Literal.Uses, Datum.label, hnull] using hv

theorem conditionOn_uses {e : Expr} {values : List Datum} {temporal : Bool} {c : Condition}
    (he : e.Uses g) (hvalues : ∀ v ∈ values, v.display ∈ g.values)
    (h : conditionOn e values temporal = .ok c) : c.Uses g := by
  have hknown : ∀ v ∈ values.filter (!·.isNull), v.isNull = false ∧ v.display ∈ g.values := by
    intro v hv
    obtain ⟨hmem, hnull⟩ := List.mem_filter.mp hv
    exact ⟨by simpa using hnull, hvalues v hmem⟩
  unfold conditionOn at h
  split at h
  · obtain rfl := Except.ok.inj h
    trivial
  · split at h
    · obtain rfl := Except.ok.inj h
      refine ⟨he, fun s hs => ?_⟩
      obtain ⟨v, hv, rfl⟩ := List.mem_map.mp hs
      exact (hknown v hv).2
    · obtain ⟨literals, hliterals, rfl⟩ := map_eq_ok.mp h
      refine ⟨he, fun l hl => ?_⟩
      obtain ⟨v, hv, hl⟩ := of_mem_of_mapM_eq_ok hliterals hl
      exact literal_uses (hknown v hv).2 (hknown v hv).1 hl

/-! ## Statements of widgets -/

namespace Source

variable {settings : Settings} {s : Source} {edges : List Edge} {schemas : List Schema.Table}
  {constraints : Constraints} {path : JoinPath} {conditions : List Condition} {c : Compiled}

/-- The fields that the statement of a widget may read. -/
def fields (s : Source) (constraints : Constraints) : List String :=
  s.xField :: s.yFields ++ s.seriesBy.toList ++ s.timeField :: constraints.map (·.1)

/-- What the statement of a widget is given: the tables of its fields, the columns of its fields
and of the edges, the output names and the values of the constraints. -/
def given (s : Source) (edges : List Edge) (constraints : Constraints) (c : Compiled) : Given where
  tables := s.baseTable :: s.usedTables constraints
  columns := (s.fields constraints).map (fun f => (Field.parse s.baseTable f).column)
    ++ edges.flatMap fun e => [e.left.column, e.right.column]
  outputs := c.outputs
  values := allowedTexts constraints

theorem column_uses (hbase : path.base = s.baseTable) {field : String}
    (hfield : field ∈ s.fields constraints) {e : Expr} (h : path.column field = .ok e) :
    e.Uses (s.given edges constraints c) := by
  obtain ⟨i, rfl⟩ := JoinPath.column_eq_ok h
  refine .column (List.mem_append_left _ ?_)
  rw [hbase]
  exact List.mem_map_of_mem hfield

theorem xField_mem_fields : s.xField ∈ s.fields constraints := by simp [fields]

theorem timeField_mem_fields : s.timeField ∈ s.fields constraints := by simp [fields]

theorem yField_mem_fields {field : String} (h : field ∈ s.yFields) :
    field ∈ s.fields constraints := by
  simp [fields, h]

theorem seriesBy_mem_fields {field : String} (h : field ∈ s.seriesBy.toList) :
    field ∈ s.fields constraints := by
  simp only [fields, List.cons_append, List.mem_cons, List.mem_append, h]
  simp

theorem columns_use (hbase : path.base = s.baseTable) {fields : List String}
    (hfields : ∀ f ∈ fields, f ∈ s.fields constraints) {es : List Expr}
    (h : fields.mapM path.column = .ok es) : ∀ e ∈ es, e.Uses (s.given edges constraints c) := by
  intro e he
  obtain ⟨f, hf, hcolumn⟩ := of_mem_of_mapM_eq_ok h he
  exact column_uses hbase (hfields f hf) hcolumn

theorem tables_use (h : JoinPath.resolve s.baseTable (s.usedTables constraints) edges = .ok path) :
    path.tables.Uses (s.given edges constraints c) := by
  obtain ⟨hbase, hjoined⟩ := JoinPath.resolve_eq_ok h
  refine JoinPath.tables_uses (by simp [given, hbase]) fun j hj => ?_
  obtain ⟨htable, hedge⟩ := hjoined j hj
  have hcolumns : ∀ name ∈ [j.2.left.column, j.2.right.column],
      name ∈ (s.given edges constraints c).columns := fun name hname =>
    List.mem_append_right _ (List.mem_flatMap.mpr ⟨j.2, hedge, hname⟩)
  exact ⟨List.mem_cons_of_mem _ htable, hcolumns _ (by simp), hcolumns _ (by simp)⟩

theorem conditions_use (hbase : path.base = s.baseTable)
    (h : constraints.mapM (constraintCondition path schemas) = .ok conditions) :
    ∀ d ∈ conditions, d.Uses (s.given edges constraints c) := by
  intro d hd
  obtain ⟨p, hp, hcondition⟩ := of_mem_of_mapM_eq_ok h hd
  simp only [constraintCondition, bind_eq_ok] at hcondition
  obtain ⟨e, he, items, hitems, hcondition⟩ := hcondition
  have hfield : p.1 ∈ s.fields constraints := by
    simp only [fields, List.mem_append, List.mem_cons]
    exact Or.inr (Or.inr (List.mem_map_of_mem hp))
  exact conditionOn_uses (column_uses hbase hfield he)
    (fun v hv => display_mem_allowedTexts hp hitems hv) hcondition

theorem measure_uses (haccepted : s.Accepted) {e : Expr} (h : e.Uses g) :
    (s.measure e).Uses g := by
  have hknown := Aggregate.isKnown_of_supported haccepted.aggregation
  unfold measure
  generalize Aggregate.ofCapitals s.aggregation = a at hknown ⊢
  split
  · exact h.numeric
  · exact Aggregate.column_uses h hknown

theorem bucket_uses {e : Expr} (h : e.Uses g) (k : Granularity) : (bucket k e).Uses g := by
  cases k with
  | day => exact h.moment
  | month => exact .truncated (by decide) h.moment
  | year => exact .truncated (by decide) h.moment

/-- The items of a query use what its expressions use, under the names they are zipped with. -/
theorem items_use {es : List Expr} {names : List String} {f : Expr → Expr}
    (hes : ∀ e ∈ es, (f e).Uses g) (hnames : g.outputs = names) :
    ∀ i ∈ (es.zip names).map fun p => (⟨f p.1, p.2⟩ : Item), i.Uses g := by
  intro i hi
  obtain ⟨⟨e, name⟩, hp, rfl⟩ := List.mem_map.mp hi
  obtain ⟨he, hname⟩ := List.of_mem_zip hp
  exact ⟨hes e he, hnames ▸ hname⟩

theorem kpiQuery_uses (haccepted : s.Accepted)
    (hpath : JoinPath.resolve s.baseTable (s.usedTables constraints) edges = .ok path)
    (hconditions : ∀ d ∈ conditions, d.Uses (s.given edges constraints c))
    {q : Query} (h : s.kpiQuery settings path conditions = .ok q) :
    q.Uses (s.given edges constraints c) := by
  have hbase : path.base = s.baseTable := (JoinPath.resolve_eq_ok hpath).1
  have hknown := Aggregate.isKnown_of_supported haccepted.aggregation
  obtain ⟨y, hy, hq⟩ := kpiQuery_eq_ok h
  generalize Aggregate.ofCapitals s.aggregation = a at hknown hq
  have hfirst : s.yFields.headD "" ∈ s.yFields := by
    cases hys : s.yFields with
    | nil => exact absurd hys haccepted.yFields
    | cons field rest => exact List.mem_cons_self
  have hyUses : y.Uses (s.given edges constraints c) :=
    column_uses hbase (yField_mem_fields hfirst) hy
  rcases hq with ⟨-, rfl⟩ | ⟨time, length, unit, -, htime, hwindow, rfl⟩
  · exact ⟨Aggregate.column_uses hyUses hknown, tables_use hpath, hconditions⟩
  · have htimeUses : time.moment.Uses (s.given edges constraints c) :=
      (column_uses hbase timeField_mem_fields htime).moment
    refine ⟨htimeUses, Aggregate.input_uses hyUses a, tables_use hpath, fun d hd => ?_,
      Aggregate.outer_uses (.code (by decide)) hknown, window_eq_ok hwindow⟩
    rcases List.mem_cons.mp hd with rfl | hd
    · exact htimeUses
    · exact hconditions d hd

theorem scatterQuery_uses
    (hpath : JoinPath.resolve s.baseTable (s.usedTables constraints) edges = .ok path)
    (hconditions : ∀ d ∈ conditions, d.Uses (s.given edges constraints c))
    (h : s.scatterQuery path conditions = .ok c) : c.query.Uses (s.given edges constraints c) := by
  have hbase : path.base = s.baseTable := (JoinPath.resolve_eq_ok hpath).1
  obtain ⟨x, ys, names, hx, hys, -, hc⟩ := scatterQuery_eq_ok h
  have hnames : (s.given edges constraints c).outputs = names :=
    outputs_of_scatterQuery (by rw [hc]) (by rw [hc]) (by rw [hc])
  have hcolumns : ∀ e ∈ x :: ys, e.numeric.Uses (s.given edges constraints c) := by
    intro e he
    rcases List.mem_cons.mp he with rfl | he
    · exact (column_uses hbase xField_mem_fields hx).numeric
    · exact (columns_use hbase (fun f hf => yField_mem_fields hf) hys e he).numeric
  have hquery := congrArg Compiled.query hc
  rw [hquery]
  exact ⟨items_use hcolumns hnames, tables_use hpath, hconditions, by simp⟩

theorem axisQuery_uses (haccepted : s.Accepted)
    (hpath : JoinPath.resolve s.baseTable (s.usedTables constraints) edges = .ok path)
    (hconditions : ∀ d ∈ conditions, d.Uses (s.given edges constraints c))
    (h : s.axisQuery path schemas conditions = .ok c) :
    c.query.Uses (s.given edges constraints c) := by
  have hbase : path.base = s.baseTable := (JoinPath.resolve_eq_ok hpath).1
  obtain ⟨raw, series, ys, x, names, groups, hraw, hseries, hys, hx, hgroups, -, hc⟩ :=
    axisQuery_eq_ok h
  have hnames : (s.given edges constraints c).outputs = names :=
    outputs_of_axisQuery (length_of_mapM_eq_ok hseries) (by rw [hc]) (by rw [hc]) (by rw [hc])
  have hxUses : x.Uses (s.given edges constraints c) := by
    have hrawUses : raw.Uses (s.given edges constraints c) :=
      column_uses hbase xField_mem_fields hraw
    generalize s.granularity = k at hx
    rcases hx with rfl | rfl
    · exact hrawUses
    · exact bucket_uses hrawUses k
  have hseriesUses : ∀ e ∈ series, e.Uses (s.given edges constraints c) :=
    columns_use hbase (fun f hf => seriesBy_mem_fields hf) hseries
  have hcolumns : ∀ e ∈ x :: series ++ ys.map s.measure,
      e.Uses (s.given edges constraints c) := by
    intro e he
    rcases List.mem_append.mp he with he | he
    · rcases List.mem_cons.mp he with rfl | he
      · exact hxUses
      · exact hseriesUses e he
    · obtain ⟨y, hy, rfl⟩ := List.mem_map.mp he
      exact measure_uses haccepted
        (columns_use hbase (fun f hf => yField_mem_fields hf) hys y hy)
  have hquery := congrArg Compiled.query hc
  rw [hquery]
  refine ⟨items_use hcolumns hnames, tables_use hpath, hconditions, fun p hp => ?_⟩
  obtain rfl := hgroups p hp
  refine ⟨fun e he => ?_, hxUses⟩
  rcases List.mem_cons.mp he with rfl | he
  · exact hxUses
  · exact hseriesUses e he

/-- The statement of a widget is made of fixed words and of what it is given. -/
theorem compile_uses (h : s.compile settings edges schemas constraints = .ok c) :
    c.query.Uses (s.given edges constraints c) := by
  obtain ⟨haccepted, path, conditions, hpath, hconditions, h⟩ := compile_eq_ok h
  have hconditions : ∀ d ∈ conditions, d.Uses (s.given edges constraints c) :=
    conditions_use (JoinPath.resolve_eq_ok hpath).1 hconditions
  rcases h with ⟨-, -, h, -⟩ | ⟨-, h⟩ | ⟨-, -, h⟩
  · exact kpiQuery_uses haccepted hpath hconditions h
  · exact scatterQuery_uses hpath hconditions h
  · exact axisQuery_uses haccepted hpath hconditions h

end Source

/-! ## Statements of distinct values -/

/-- What the statement of distinct values is given: its table, its columns and the values of the
other columns. -/
def valuesGiven (table column : String) (others : Constraints) : Given where
  tables := [table]
  columns := column :: others.map (·.1)
  outputs := []
  values := allowedTexts others

theorem distinctValues_uses {settings : Settings} {table column : String} {others : Constraints}
    {limit : Datum} {schemas : List Schema.Table} {q : Query}
    (h : distinctValues settings table column others limit schemas = .ok q) :
    q.Uses (valuesGiven table column others) := by
  obtain ⟨conditions, hconditions, h⟩ := bind_eq_ok.mp h
  have hq : ∃ n, q = .values column table conditions n := by
    split at h
    · obtain ⟨n, -, h⟩ := bind_eq_ok.mp h
      exact ⟨n, (pure_eq_ok.mp h).symm⟩
    · obtain ⟨n, -, h⟩ := bind_eq_ok.mp h
      exact ⟨n, (pure_eq_ok.mp h).symm⟩
  obtain ⟨n, rfl⟩ := hq
  refine ⟨by simp [valuesGiven], by simp [valuesGiven], fun d hd => ?_⟩
  obtain ⟨p, hp, hcondition⟩ := of_mem_of_mapM_eq_ok hconditions hd
  obtain ⟨items, hitems, hcondition⟩ := bind_eq_ok.mp hcondition
  have hmem := (List.mem_filter.mp hp).1
  refine conditionOn_uses (.bare (List.mem_cons_of_mem _ (List.mem_map_of_mem hmem)))
    (fun v hv => display_mem_allowedTexts hmem hitems hv) hcondition

/-! ## The result -/

/-- Every statement of a widget and every statement of distinct values is sealed: it ends outside
of quotations, mentions exactly the names and texts of its query in order, and has the same
structure whatever quotes there are in what it is given. -/
theorem statements_sealed (settings : Settings) (schemas : List Schema.Table) :
    (∀ (s : Source) (edges : List Edge) (constraints : Constraints) (c : Compiled),
      s.compile settings edges schemas constraints = .ok c →
        Sealed (s.given edges constraints c) c.query) ∧
    (∀ (table column : String) (others : Constraints) (limit : Datum) (q : Query),
      distinctValues settings table column others limit schemas = .ok q →
        Sealed (valuesGiven table column others) q) :=
  ⟨fun _ _ _ _ h => (Source.compile_uses h).sealed,
    fun _ _ _ _ _ h => (distinctValues_uses h).sealed⟩

/-- A widget on a table and fields with quotes in their names. -/
def quotesSource : Source where
  tableName := "o\x22rders"
  xAxis := some "na\x22me"
  yAxis := some (.many ["amo'unt", "na\x22me"])
  chartType := "bar"
  options := { Options.none with aggregation := some "avg" }

/-- A text that tries to end its quotation. -/
def quotesConstraints : Constraints := [("st'a\x22te", .list [.text "x') OR ('1'='1", .int 7])]

theorem statements_sealed_quotes :
    ∃ c q, quotesSource.compile {} [] [] quotesConstraints = .ok c ∧
      distinctValues {} "o\x22rders" "na\x22me" quotesConstraints .null [] = .ok q ∧
      Sealed (quotesSource.given [] quotesConstraints c) c.query ∧
      Sealed (valuesGiven "o\x22rders" "na\x22me" quotesConstraints) q := by
  have hcompiled : (quotesSource.compile {} [] [] quotesConstraints).toOption.isSome = true := by
    decide +kernel
  have hvalues : (distinctValues {} "o\x22rders" "na\x22me" quotesConstraints .null
      []).toOption.isSome = true := by
    decide +kernel
  obtain ⟨hwidgets, hdistinct⟩ := statements_sealed {} []
  cases hc : quotesSource.compile {} [] [] quotesConstraints with
  | error fault => simp [hc, Except.toOption] at hcompiled
  | ok c =>
    cases hq : distinctValues {} "o\x22rders" "na\x22me" quotesConstraints .null [] with
    | error fault => simp [hq, Except.toOption] at hvalues
    | ok q => exact ⟨c, q, rfl, rfl, hwidgets _ _ _ _ hc, hdistinct _ _ _ _ _ hq⟩

end ChartBoard.Widget
