import ChartBoard.Proofs.Figure.Selection
import ChartBoard.Proofs.Filtering.Narrowing
import ChartBoard.Proofs.Relationship.Field
import ChartBoard.Proofs.Relationship.JoinPath
import ChartBoard.Proofs.Widget.Alignment
import ChartBoard.Proofs.Widget.Chart

/-!
# Clicks on a chart

A click on a bar, a point of a line or a slice selects its label, and the label becomes a filter on
the column of the X axis.  The chart is then narrowed to what shows that label, and never left
empty, also where the label is the empty text that stands for null.

* `table_ne_empty` says that the filter names a table.
* `click_axis` and `click_pie` are about the two kinds of chart, `click_keeps` is the result.
-/

namespace ChartBoard.Widget

open Figure (ofChart)
open Filtering
open Relationship (Field)
open Result

variable {settings : Settings} {s : Source} {edges : List Relationship.Edge}
  {schemas : List Schema.Table} {constraints : Constraints} {c : Compiled}
  {theme : Option String} {rows : List Record} {chart : Record} {look : Figure.Theme} {f : Figure}
  {field : Field} {position : Nat}

/-! ## The column of the X axis -/

/-- The field on the X axis of a compiled chart is a column of one of its tables. -/
theorem exists_xColumn (hc : s.compile settings edges schemas constraints = .ok c)
    (hkpi : s.kind ≠ "kpi") : ∃ path e,
      Relationship.JoinPath.resolve s.baseTable (s.usedTables constraints) edges = .ok path ∧
      path.column s.xField = .ok e := by
  obtain ⟨-, path, conditions, hpath, -, hquery⟩ := Source.compile_eq_ok hc
  refine ⟨path, ?_⟩
  rcases hquery with ⟨hkind, -⟩ | ⟨-, hscatter⟩ | ⟨-, -, haxis⟩
  · exact absurd hkind hkpi
  · obtain ⟨x, _, _, hx, -⟩ := Source.scatterQuery_eq_ok hscatter
    exact ⟨x, hpath, hx⟩
  · obtain ⟨x, _, _, _, _, _, hx, -⟩ := Source.axisQuery_eq_ok haxis
    exact ⟨x, hpath, hx⟩

theorem filterField?_eq_some {table xAxis : String} (h : filterField? table xAxis = some field) :
    table ≠ "" ∧ field = Field.parse table xAxis := by
  unfold filterField? at h
  split at h
  · cases h
  · rename_i hnamed
    rw [Bool.or_eq_true, not_or] at hnamed
    exact ⟨by simpa using hnamed.1, (Option.some.inj h).symm⟩

theorem table_ne_empty (hc : s.compile settings edges schemas constraints = .ok c)
    (hkpi : s.kind ≠ "kpi") (hfield : axisField? s = some field) : field.table ≠ "" := by
  obtain ⟨path, e, hpath, hcolumn⟩ := exists_xColumn hc hkpi
  have hxTable : (Field.parse path.base s.xField).table ≠ "" :=
    Relationship.JoinPath.ne_empty_of_mem_names (Source.ne_empty_baseTable hc) hpath _
      (Relationship.JoinPath.mem_names_of_column hcolumn)
  have hsplit : Field.split s.xField = Field.split (s.xAxis.getD "") :=
    Field.split_trim _
  obtain ⟨hnamed, rfl⟩ := filterField?_eq_some hfield
  simp only [Field.parse, hsplit] at hxTable ⊢
  cases htable : (Field.split (s.xAxis.getD "")).1 with
  | none => exact hnamed
  | some table =>
    rw [htable] at hxTable
    exact hxTable

/-! ## Labels -/

theorem normalLabel_text_label (v : Datum) : normalLabel (.text v.label) = normalLabel v := rfl

theorem isAllowed_singleton (label : String) :
    isAllowed [label] = fun v => normalLabel v == label := by
  funext v
  simp [isAllowed, beq_eq_decide]

/-- What a click with a label leaves of a chart. -/
def clicked (s : Source) (field : Field) (label : String) (chart : Record) : Record :=
  filtered [⟨field.table, field.column, [.text label]⟩] s chart

theorem click_axis (hshaped : Chart.Shaped chart s.kind) (hkind : s.kind = "bar" ∨ s.kind = "line")
    (hf : ofChart (.object chart) look = .ok f) (hshown : f.fallback = false)
    (hfield : axisField? s = some field) (hposition : f.content.IsTick position) :
    ∃ label, f.selected 0 position = some (.named label) ∧
      Narrowed (fun v => normalLabel v == normalLabel (.text label)) chart
        (clicked s field label chart) := by
  -- the cases forget the kind of the chart, which its figure depends on
  have hall := hshaped
  generalize hname : s.kind = kind at hshaped
  cases hshaped with
  | @axis _ axis labels series _ hxAxis hlabels hseries haligned =>
    obtain ⟨curved, lines, x, y, hcontent⟩ :=
      Figure.categories_of_axis hall hkind hxAxis hlabels hf hshown
    have hlt : position < labels.length := by
      rw [hcontent] at hposition
      simpa [Figure.Content.IsTick, Figure.Content.categories, Figure.Content.labels]
        using hposition
    refine ⟨labels[position].label, ?_, ?_⟩
    · refine Figure.selected_of_category hshown ?_
      simp [hcontent, Figure.Content.categories, hlt]
    · have hpie : (s.kind == "pie") = false := by
        rcases hkind with h | h <;> rw [h] <;> decide
      rw [clicked, filtered_of_axisField hfield, hpie, if_neg Bool.false_ne_true,
        ← isAllowed_singleton]
      refine narrowed_filteredAxis hxAxis hlabels hseries haligned ⟨labels[position], ?_, ?_⟩
      · exact List.getElem_mem hlt
      · simp [isAllowed, normalLabel_text_label]
  | pie => simp [hname] at hkind
  | radar => simp [hname] at hkind
  | scatter => simp [hname] at hkind

theorem click_pie {first : Record} {slices : List Datum} (hshaped : Chart.Shaped chart "pie")
    (hkind : s.kind = "pie") (hseries : Record.get chart "series" = .list [.object first])
    (hslices : Record.get first "data" = .list slices)
    (hobjects : ∀ v ∈ slices, v.isObject = true)
    (hf : ofChart (.object chart) look = .ok f) (hshown : f.fallback = false)
    (hfield : axisField? s = some field) (hposition : f.content.IsTick position) :
    ∃ label, f.selected 0 position = some (.named label) ∧
      Narrowed (fun v => normalLabel v == normalLabel (.text label)) chart
        (clicked s field label chart) := by
  obtain ⟨values, hcontent⟩ := Figure.labels_of_pie hshaped hseries hslices hf hshown
  have hlt : position < slices.length := by
    rw [hcontent] at hposition
    simpa [Figure.Content.IsTick, Figure.Content.categories, Figure.Content.labels]
      using hposition
  refine ⟨(slices[position].get "name").label, ?_, ?_⟩
  · refine Figure.selected_of_slice hshown ?_
    simp [hcontent, Figure.Content.labels, hlt]
  · rw [clicked, filtered_of_axisField hfield, if_pos (beq_iff_eq.mpr hkind),
      ← isAllowed_singleton]
    refine narrowed_filteredPie hseries hslices hobjects ⟨slices[position], ?_, ?_⟩
    · exact List.getElem_mem hlt
    · simp [isAllowed, normalLabel_text_label]

/-! ## Clicks -/

/-- The label of a clicked category or slice, as the only value of a filter on the column of the X
axis, narrows the chart to the categories or slices with that label, up to case and blanks around
it.  These keep their values, and the chart is not marked as left empty. -/
theorem click_keeps (hc : s.compile settings edges schemas constraints = .ok c)
    (hkind : s.kind ∈ ["bar", "line", "pie"])
    (hchart : s.chart settings.limits c theme rows = .ok chart)
    (hf : ofChart (.object chart) look = .ok f) (hshown : f.fallback = false)
    (hfield : axisField? s = some field) (hcolumn : field.column ≠ "")
    (hposition : f.content.IsTick position) :
    ∃ label, f.selected 0 position = some (.named label) ∧
      let filter : ActiveFilter := ⟨field.table, field.column, [.text label]⟩
      validFilters [filter.toDatum] = [filter] ∧
        Record.get (filtered [filter] s chart) Figure.emptyMark = .null ∧
        Narrowed (fun v => normalLabel v == normalLabel (.text label)) chart
          (filtered [filter] s chart) := by
  have hkpi : s.kind ≠ "kpi" := by
    rintro h
    rw [h] at hkind
    exact absurd hkind (by decide)
  have hshaped : Chart.Shaped chart s.kind := s.shaped_chart hc hkpi hchart
  have hclick : ∃ label, f.selected 0 position = some (.named label) ∧
      Narrowed (fun v => normalLabel v == normalLabel (.text label)) chart
        (clicked s field label chart) := by
    by_cases hpie : s.kind = "pie"
    · have hkindOf : c.kind = "pie" := (Source.kind_of_compile hc).trans hpie
      obtain ⟨first, slices, hseries, hslices, hobjects⟩ := s.exists_slices hkindOf hchart
      exact click_pie (hpie ▸ hshaped) hpie hseries hslices hobjects hf hshown hfield hposition
    · have hbars : s.kind = "bar" ∨ s.kind = "line" := by simpa [hpie] using hkind
      exact click_axis hshaped hbars hf hshown hfield hposition
  obtain ⟨label, hselected, hnarrowed⟩ := hclick
  refine ⟨label, hselected, ?_, ?_, hnarrowed⟩
  · exact validFilters_toDatum (table_ne_empty hc hkpi hfield) hcolumn (by simp)
  · exact (Narrowed.get_of_ne hnarrowed).trans (s.unmarked_chart hchart)

/-- Sales without a city and in Rome. -/
def someWithoutCity : List Record :=
  [[("city", .null), ("sales", .int 3)], [("city", .text "Rome"), ("sales", .int 2)]]

/-- The first bar has the empty text for its label, and a click on it leaves the bars without a
city. -/
theorem click_keeps_null :
    ∃ c chart f, salesByCity.compile {} [] [] [] = .ok c ∧
      salesByCity.chart .usual c none someWithoutCity = .ok chart ∧
      ofChart (.object chart) {} = .ok f ∧ f.selected 0 0 = some (.named "") ∧
      Narrowed (fun v => normalLabel v == normalLabel (.text "")) chart
        (filtered [⟨"orders", "city", [.text ""]⟩] salesByCity chart) := by
  have hrun : (do
      let c ← salesByCity.compile {} [] [] []
      let chart ← salesByCity.chart .usual c none someWithoutCity
      let f ← ofChart (.object chart) {}
      return (f.fallback, f.content.categories)) = .ok (false, ["", "Rome"]) :=
    toOption_eq_some.mp (by decide +kernel)
  obtain ⟨c, hc, hrun⟩ := bind_eq_ok.mp hrun
  obtain ⟨chart, hchart, hrun⟩ := bind_eq_ok.mp hrun
  obtain ⟨f, hf, hrun⟩ := bind_eq_ok.mp hrun
  obtain ⟨hshown, hcategories⟩ := Prod.mk.inj (pure_eq_ok.mp hrun)
  have hnull : f.selected 0 0 = some (.named "") :=
    Figure.selected_of_category hshown (by rw [hcategories]; rfl)
  have hfield : axisField? salesByCity = some ⟨"orders", "city"⟩ := by decide
  have hkind : salesByCity.kind ∈ ["bar", "line", "pie"] := by decide
  have hfirst : f.content.IsTick 0 := .inl (by rw [hcategories]; decide)
  obtain ⟨label, hselected, -, -, hnarrowed⟩ :=
    click_keeps hc hkind hchart hf hshown hfield (by decide) hfirst
  obtain rfl : "" = label :=
    Figure.Place.named.inj (Option.some.inj (hnull.symm.trans hselected))
  exact ⟨c, chart, f, hc, hchart, hf, hnull, hnarrowed⟩

end ChartBoard.Widget
