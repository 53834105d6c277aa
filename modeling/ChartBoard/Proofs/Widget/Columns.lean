import ChartBoard.Engine.Session
import ChartBoard.Proofs.Keyed
import ChartBoard.Proofs.Widget.Compiled
import ChartBoard.Proofs.Widget.OutputNames
import ChartBoard.Widget.Chart

/-!
# Columns of answers

The compiler names the outputs of a statement, the engine returns tuples in their order, and the
chart reads the rows by these names again.

* `Source.named_of_compile` says which names the outputs have, and that they are distinct.
* `Engine.records_eq_ok` says that rows under distinct names keep every cell.
* `Compiled.Reads` says that a chart finds the cells of a row at their positions.
* `columns_kept` is the result.
-/

namespace ChartBoard.Engine

open Result

variable {columns : List String}

theorem mapM_zip_interchange {values : List Datum} (hlength : values.length = columns.length) :
    ((columns.zip values).mapM fun p => do return (p.1, ← interchange p.2)) =
      (values.mapM interchange).map (columns.zip ·) := by
  induction columns generalizing values with
  | nil =>
    obtain rfl := List.length_eq_zero_iff.mp hlength
    rfl
  | cons name columns ih =>
    cases values with
    | nil => simp at hlength
    | cons v values =>
      have ih := ih (Nat.succ.inj hlength)
      rw [List.zip_cons_cons, List.mapM_cons, List.mapM_cons, ih]
      cases interchange v with
      | error fault => rfl
      | ok w => cases values.mapM interchange <;> rfl

theorem rowOf_eq_ok (hnodup : columns.Nodup) {values : List Datum} {row : Record}
    (hlength : values.length = columns.length) (h : rowOf columns values = .ok row) :
    ∃ cells, values.mapM interchange = .ok cells ∧ row = columns.zip cells := by
  obtain ⟨pairs, hpairs, hrow⟩ := bind_eq_ok.mp h
  rw [mapM_zip_interchange hlength] at hpairs
  obtain ⟨cells, hcells, rfl⟩ := map_eq_ok.mp hpairs
  obtain rfl := pure_eq_ok.mp hrow
  refine ⟨cells, hcells, Keyed.ofPairs_of_nodup ?_⟩
  have hcellsLength := length_of_mapM_eq_ok hcells
  rw [List.map_fst_zip (by omega)]
  exact hnodup

theorem records_eq_ok (hnodup : columns.Nodup) {tuples : List (List Datum)} {rows : List Record}
    (hlength : ∀ t ∈ tuples, t.length = columns.length)
    (h : (Outcome.table columns tuples).records = .ok rows) :
    ∃ cells, tuples.mapM (List.mapM interchange) = .ok cells ∧
      rows = cells.map (columns.zip ·) ∧ ∀ row ∈ cells, row.length = columns.length := by
  have hall := mapM_eq_ok.mp h
  clear h
  induction hall with
  | nil => exact ⟨[], rfl, rfl, by simp⟩
  | @cons values row tuples rows hrow _ ih =>
    obtain ⟨cells, hcells, hmap, hlengths⟩ := ih fun t ht => hlength t (List.mem_cons_of_mem _ ht)
    have hvalues := hlength values List.mem_cons_self
    obtain ⟨first, hfirst, rfl⟩ := rowOf_eq_ok hnodup hvalues hrow
    refine ⟨first :: cells, ?_, by rw [hmap]; rfl, fun r hr => ?_⟩
    · rw [List.mapM_cons, hfirst, hcells]
      rfl
    · rcases List.mem_cons.mp hr with rfl | hr
      · rw [length_of_mapM_eq_ok hfirst, hvalues]
      · exact hlengths r hr

end ChartBoard.Engine

namespace ChartBoard.Widget

open Relationship Sql Result Engine

theorem get_zip {names : List String} (hnodup : names.Nodup) {cells : List Datum}
    (hlength : cells.length = names.length) {i : Nat} {name : String}
    (h : names[i]? = some name) : cells[i]? = some (Record.get (names.zip cells) name) := by
  obtain ⟨hi, hname⟩ := List.getElem?_eq_some_iff.mp h
  have hcells : i < cells.length := by omega
  have hcell : cells[i]? = some cells[i] := List.getElem?_eq_getElem hcells
  have hmem : (name, cells[i]) ∈ names.zip cells := by
    refine List.mem_iff_getElem?.mpr ⟨i, ?_⟩
    rw [List.getElem?_zip_eq_some]
    exact ⟨h, hcell⟩
  have hkeys : ((names.zip cells).map (·.1)).Nodup := by
    rw [List.map_fst_zip (by omega)]
    exact hnodup
  rw [hcell, Record.get, Record.get?, Keyed.get?_of_mem hkeys hmem]
  rfl

variable {settings : Settings} {s : Source} {edges : List Edge} {schemas : List Schema.Table}
  {constraints : Constraints} {c : Compiled}

namespace Source

/-! ## Output names -/

/-- What is known of the output names of a widget that is no key figure. -/
structure Named (s : Source) (c : Compiled) : Prop where
  query : ∃ items tables conditions groups, c.query = .table items tables conditions groups ∧
    items.map Item.name = c.outputs
  outputs : c.outputs = freshNames
    (s.xField :: (if s.kind = "scatter" then [] else s.seriesBy.toList) ++ s.yFields)
  nodup : c.outputs.Nodup
  kind : c.kind = s.kind
  xAlias : c.xAlias = some s.xField
  seriesAlias : c.seriesAlias.isSome = (s.kind != "scatter" && s.seriesBy.isSome)
  yAliases : c.yAliases.length = s.yFields.length

theorem map_name_zip {es : List Expr} {names : List String} (f : Expr → Expr)
    (h : names.length ≤ es.length) :
    ((es.zip names).map fun p => (⟨f p.1, p.2⟩ : Item)).map Item.name = names := by
  rw [List.map_map]
  exact List.map_snd_zip h

theorem head?_freshNames (name : String) (rest : List String) :
    (freshNames (name :: rest)).head? = some name := by
  simp [freshNames, freshNamesAfter, freshName_of_not_mem]

theorem named_of_scatterQuery {path : JoinPath} {conditions : List Condition}
    (hkind : s.kind = "scatter") (h : s.scatterQuery path conditions = .ok c) : s.Named c := by
  obtain ⟨x, ys, names, -, hys, hnames, hc⟩ := scatterQuery_eq_ok h
  have houtputs : c.outputs = names :=
    outputs_of_scatterQuery (by rw [hc]) (by rw [hc]) (by rw [hc])
  have hlength : names.length = s.yFields.length + 1 := by
    rw [hnames, length_freshNames, List.length_cons]
  have hysLength := length_of_mapM_eq_ok hys
  refine ⟨?_, ?_, ?_, by rw [hc], ?_, ?_, ?_⟩
  · rw [houtputs, hc]
    exact ⟨_, _, _, _, rfl, map_name_zip Expr.numeric (by rw [List.length_cons]; omega)⟩
  · rw [houtputs, hnames, if_pos hkind, List.cons_append, List.nil_append]
  · rw [houtputs, hnames]
    exact freshNames_nodup _
  · rw [hc, hnames]
    exact head?_freshNames s.xField s.yFields
  · rw [hc, hkind]
    rfl
  · rw [hc, List.length_drop]
    omega

theorem named_of_axisQuery {path : JoinPath} {conditions : List Condition}
    (hkind : s.kind ≠ "scatter") (h : s.axisQuery path schemas conditions = .ok c) :
    s.Named c := by
  obtain ⟨raw, series, ys, x, names, groups, -, hseries, hys, -, -, hnames, hc⟩ :=
    axisQuery_eq_ok h
  have hseriesLength := length_of_mapM_eq_ok hseries
  have houtputs : c.outputs = names :=
    outputs_of_axisQuery hseriesLength (by rw [hc]) (by rw [hc]) (by rw [hc])
  have hlength : names.length = 1 + s.seriesBy.toList.length + s.yFields.length := by
    rw [hnames, length_freshNames, List.length_append, List.length_cons]
    omega
  have hysLength := length_of_mapM_eq_ok hys
  refine ⟨?_, ?_, ?_, by rw [hc], ?_, ?_, ?_⟩
  · rw [houtputs, hc]
    refine ⟨_, _, _, _, rfl, map_name_zip id ?_⟩
    rw [List.length_append, List.length_cons, List.length_map]
    omega
  · rw [houtputs, hnames, if_neg hkind]
  · rw [houtputs, hnames]
    exact freshNames_nodup _
  · rw [hc, hnames]
    exact head?_freshNames s.xField (s.seriesBy.toList ++ s.yFields)
  · rw [hc, bne_iff_ne.mpr hkind, Bool.true_and]
    cases hby : s.seriesBy with
    | none =>
      rw [hby] at hseriesLength
      obtain rfl := List.length_eq_zero_iff.mp hseriesLength
      rfl
    | some field =>
      rw [hby] at hseriesLength hlength
      obtain ⟨e, rfl⟩ := List.length_eq_one_iff.mp hseriesLength
      have hlong : 1 < names.length := by
        have hyFields := hlength
        simp only [Option.toList_some, List.length_singleton] at hyFields
        omega
      simp [List.getElem?_eq_getElem hlong]
  · rw [hc, List.length_drop]
    omega

/-- The outputs of a widget that is no key figure have distinct names, those of its fields in
order. -/
theorem named_of_compile (h : s.compile settings edges schemas constraints = .ok c)
    (hkind : s.kind ≠ "kpi") : s.Named c := by
  obtain ⟨-, path, conditions, -, -, h⟩ := compile_eq_ok h
  rcases h with ⟨hkpi, -⟩ | ⟨hscatter, h⟩ | ⟨-, hscatter, h⟩
  · exact absurd hkpi hkind
  · exact named_of_scatterQuery hscatter h
  · exact named_of_axisQuery hscatter h

end Source

/-! ## Cells of rows -/

/-- The cells of a row, all kept under the output names and found where the chart looks for the
fields on its axes and for the field that splits its measure. -/
structure Compiled.Reads (c : Compiled) (q : Chart.Request) (cells : List Datum) : Prop where
  names : (c.outputs.zip cells).map (·.1) = c.outputs
  values : (c.outputs.zip cells).map (·.2) = cells
  xField : cells[0]? = some (Record.get (c.outputs.zip cells) q.xField)
  seriesBy : ∀ field ∈ q.seriesBy, cells[1]? = some (Record.get (c.outputs.zip cells) field)
  yFields : ∀ (k : Nat) (field : String), q.yFields[k]? = some field →
    cells[1 + c.seriesAlias.toList.length + k]? = some (Record.get (c.outputs.zip cells) field)

theorem reads_of_named (h : s.Named c) {cells : List Datum}
    (hlength : cells.length = c.outputs.length) : c.Reads (s.request c) cells := by
  have hoff : (c.xAlias.toList ++ c.seriesAlias.toList).length =
      1 + c.seriesAlias.toList.length := by
    rw [h.xAlias, List.length_append]
    rfl
  refine ⟨List.map_fst_zip (by omega), List.map_snd_zip (by omega), ?_, ?_, ?_⟩
  · refine get_zip h.nodup hlength ?_
    rw [Compiled.outputs, Source.request, h.xAlias]
    rfl
  · intro field hfield
    refine get_zip h.nodup hlength ?_
    have hfield : c.seriesAlias = some field := hfield
    rw [Compiled.outputs, h.xAlias, hfield]
    rfl
  · intro k field hk
    refine get_zip h.nodup hlength ?_
    rw [Compiled.outputs, List.getElem?_append_right (by omega), hoff]
    rw [Nat.add_sub_cancel_left]
    exact hk

/-! ## Bars and lines -/

/-- The numbers of the column at a position, row by row. -/
def numbersAt (table : List (List Datum)) (position : Nat) : Except Fault (List Float) :=
  table.mapM fun row => (row.getD position .null).number

/-- The label of a value on the X axis of a widget. -/
def xLabel (s : Source) (c : Compiled) (v : Datum) : String :=
  if c.temporalX then dateLabel s.granularity v else v.label

section Plain

variable {table : List (List Datum)}

theorem column_of_reads (hreads : ∀ row ∈ table, c.Reads (s.request c) row)
    (hseries : c.seriesAlias = none) {k : Nat} {field : String} (hk : c.yAliases[k]? = some field) :
    Chart.column (table.map (c.outputs.zip ·)) field = numbersAt table (k + 1) := by
  unfold Chart.column numbersAt
  induction table with
  | nil => rfl
  | cons row table ih =>
    have ih := ih fun r hr => hreads r (List.mem_cons_of_mem _ hr)
    have hcell := (hreads row List.mem_cons_self).yFields k field hk
    rw [hseries, Option.toList_none, List.length_nil, Nat.add_zero, Nat.add_comm] at hcell
    rw [List.map_cons, List.mapM_cons, List.mapM_cons, ih, List.getD_eq_getElem?_getD, hcell,
      Option.getD_some]

theorem label_of_reads (h : s.Named c) (hx : s.xField ≠ "") (hscatter : s.kind ≠ "scatter")
    {row : List Datum} (hreads : c.Reads (s.request c) row) :
    (s.request c).label (c.outputs.zip row) = xLabel s c (row.getD 0 .null) := by
  have hcell : row.getD 0 .null = Record.get (c.outputs.zip row) (s.request c).xField := by
    rw [List.getD_eq_getElem?_getD, hreads.xField, Option.getD_some]
  have htime : ((s.request c).timeField == some (s.request c).xField &&
      !(s.request c).xField.isEmpty) = c.temporalX := by
    simp only [Source.request, h.xAlias, h.kind, Option.getD_some, bne_iff_ne.mpr hscatter,
      Bool.and_true]
    cases c.temporalX with
    | false => rfl
    | true => simpa using hx
  have hgranularity : (s.request c).granularity = s.granularity := by simp only [Source.request]
  rw [hcell]
  unfold Chart.Request.label xLabel
  simp only [htime, hgranularity]

/-- The chart of bars or lines for each measure: a category for each row, and in each series the
numbers of the column of its measure. -/
def plainSpec (s : Source) (c : Compiled) (table : List (List Datum))
    (columns : List (List Float)) : Chart.Spec where
  title := (s.request c).title
  plot := .axis s.kind (table.map fun row => xLabel s c (row.getD 0 .null)) (s.request c).xName
    (s.request c).yName
    (List.zipWith (fun name xs => ⟨.text name, xs.map some⟩) c.yAliases columns)

theorem plain_eq (q : Chart.Request) (hlegend : q.titles.legend = .null) (rows : List Record) :
    q.plain rows = (q.yFields.mapM (Chart.column rows)).map fun columns =>
      .axis q.kind (rows.map q.label) q.xName q.yName
        (List.zipWith (fun name xs => ⟨.text name, xs.map some⟩) q.yFields columns) := by
  have hname (field : String) : (if q.yFields.length = 1 then
      q.titles.legend.orElse (.text field) else .text field) = .text field := by
    rw [hlegend]
    split <;> rfl
  have hseries (fields : List String) : (fields.mapM fun field => do
      return (⟨.text field, (← Chart.column rows field).map some⟩ : Chart.Series)) =
      (fields.mapM (Chart.column rows)).map fun columns =>
        List.zipWith (fun name xs => ⟨.text name, xs.map some⟩) fields columns := by
    induction fields with
    | nil => rfl
    | cons field fields ih =>
      rw [List.mapM_cons, List.mapM_cons, ih]
      cases Chart.column rows field with
      | error fault => rfl
      | ok xs => cases fields.mapM (Chart.column rows) <;> rfl
  unfold Chart.Request.plain
  simp only [hname, hseries]
  cases q.yFields.mapM (Chart.column rows) <;> rfl

theorem spec_eq_ok (h : s.Named c) (hx : s.xField ≠ "") (hkind : s.kind = "bar" ∨ s.kind = "line")
    (hseries : s.seriesBy = none) (hreads : ∀ row ∈ table, c.Reads (s.request c) row)
    (spec : Chart.Spec) :
    (s.request c).spec (table.map (c.outputs.zip ·)) = .ok spec ↔
      ∃ columns, ((List.range s.yFields.length).mapM fun k => numbersAt table (k + 1)) =
        .ok columns ∧ spec = plainSpec s c table columns := by
  have hby : (s.request c).seriesBy = none := by
    have hnone := h.seriesAlias
    rw [hseries, Option.isSome_none, Bool.and_false, Option.isSome_eq_false_iff,
      Option.isNone_iff_eq_none] at hnone
    simpa only [Source.request] using hnone
  have hcolumns : (s.request c).yFields.mapM (Chart.column (table.map (c.outputs.zip ·))) =
      (List.range s.yFields.length).mapM fun k => numbersAt table (k + 1) := by
    rw [← h.yAliases]
    exact mapM_eq_mapM_range fun k field hk => column_of_reads hreads hby hk
  have hlabels : (table.map (c.outputs.zip ·)).map (s.request c).label =
      table.map fun row => xLabel s c (row.getD 0 .null) := by
    rw [List.map_map]
    refine List.map_congr_left fun row hrow => label_of_reads h hx ?_ (hreads row hrow)
    rcases hkind with hkind | hkind <;> rw [hkind] <;> decide
  have hplot : (s.request c).plot (table.map (c.outputs.zip ·)) =
      (s.request c).plain (table.map (c.outputs.zip ·)) := by
    have hq : (s.request c).kind = s.kind := h.kind
    unfold Chart.Request.plot
    rw [hq, hby]
    rcases hkind with hkind | hkind <;> rw [hkind] <;> rfl
  have hvalidate : (s.request c).validate = .ok () := by
    unfold Chart.Request.validate
    rw [hby]
    rfl
  have hq : (s.request c).kind = s.kind := h.kind
  unfold Chart.Request.spec
  rw [hvalidate, hplot, plain_eq _ rfl, hcolumns, hlabels, hq]
  constructor
  · intro hspec
    obtain ⟨_, -, hspec⟩ := bind_eq_ok.mp hspec
    obtain ⟨plot, hplot, hspec⟩ := bind_eq_ok.mp hspec
    obtain ⟨columns, hnumbers, rfl⟩ := map_eq_ok.mp hplot
    exact ⟨columns, hnumbers, (pure_eq_ok.mp hspec).symm⟩
  · rintro ⟨columns, hnumbers, rfl⟩
    rw [hnumbers]
    rfl

end Plain

/-! ## The result -/

/-- The outputs of every widget that is no key figure have distinct names, in the order of the
items of the query.  Of an answer with tuples in that order, the rows keep every cell and the chart
reads each field at its position: bars and lines that are not split have the labels of the first
column as their categories, and the numbers of the column of each measure as its series. -/
theorem columns_kept (h : s.compile settings edges schemas constraints = .ok c)
    (hkind : s.kind ≠ "kpi") :
    s.Named c ∧ ∀ (tuples : List (List Datum)) (rows : List Record),
      (∀ t ∈ tuples, t.length = c.outputs.length) →
      (Outcome.table c.outputs tuples).records = .ok rows →
      ∃ table, tuples.mapM (List.mapM interchange) = .ok table ∧
        rows = table.map (c.outputs.zip ·) ∧ (∀ row ∈ table, c.Reads (s.request c) row) ∧
        (s.kind = "bar" ∨ s.kind = "line" → s.seriesBy = none → ∀ spec,
          (s.request c).spec rows = .ok spec ↔
            ∃ columns, ((List.range s.yFields.length).mapM fun k => numbersAt table (k + 1)) =
              .ok columns ∧ spec = plainSpec s c table columns) := by
  have hnamed := Source.named_of_compile h hkind
  have hx : s.xField ≠ "" := (Source.compile_eq_ok h).1.xField hkind
  refine ⟨hnamed, fun tuples rows htuples hrecords => ?_⟩
  obtain ⟨table, htable, rfl, hlengths⟩ := records_eq_ok hnamed.nodup htuples hrecords
  have hreads : ∀ row ∈ table, c.Reads (s.request c) row := fun row hrow =>
    reads_of_named hnamed (hlengths row hrow)
  exact ⟨table, htable, rfl, hreads, fun hbars hseries spec =>
    spec_eq_ok hnamed hx hbars hseries hreads spec⟩

/-- A widget with one field on both axes and another that is named like its repetition. -/
def repeatedSource : Source where
  tableName := "orders"
  xAxis := some "sales"
  yAxis := some (.many ["sales", "sales (2)"])
  chartType := "bar"
  options := Options.none

theorem columns_kept_repeated :
    ∃ c rows, repeatedSource.compile {} [] [] [] = .ok c ∧ repeatedSource.Named c ∧
      c.outputs = ["sales", "sales (2)", "sales (2) (2)"] ∧
      (Outcome.table c.outputs [[.text "a", .int 1, .int 2]]).records = .ok rows ∧
      ∃ table, rows = table.map (c.outputs.zip ·) ∧
        (∀ row ∈ table, c.Reads (repeatedSource.request c) row) ∧
        ∀ spec, (repeatedSource.request c).spec rows = .ok spec ↔
          ∃ columns, ((List.range repeatedSource.yFields.length).mapM fun k =>
            numbersAt table (k + 1)) = .ok columns ∧
              spec = plainSpec repeatedSource c table columns := by
  have hnames : (repeatedSource.compile {} [] [] []).toOption.map Compiled.outputs =
      some ["sales", "sales (2)", "sales (2) (2)"] := by
    decide
  have hkind : repeatedSource.kind = "bar" := by decide
  have hseries : repeatedSource.seriesBy = none := by decide
  cases hc : repeatedSource.compile {} [] [] [] with
  | error fault => simp [hc, Except.toOption] at hnames
  | ok c =>
    have houtputs : c.outputs = ["sales", "sales (2)", "sales (2) (2)"] := by
      simpa [hc, Except.toOption] using hnames
    have hrecords : (Outcome.table c.outputs [[.text "a", .int 1, .int 2]]).records =
        .ok [[("sales", .text "a"), ("sales (2)", .int 1), ("sales (2) (2)", .int 2)]] := by
      rw [houtputs]
      rfl
    obtain ⟨hnamed, hkept⟩ := columns_kept hc (by rw [hkind]; decide)
    obtain ⟨table, -, hrows, hreads, hspec⟩ := hkept _ _ (by simp [houtputs]) hrecords
    exact ⟨c, _, rfl, hnamed, houtputs, hrecords, table, hrows, hreads,
      hspec (Or.inl hkind) hseries⟩

end ChartBoard.Widget
