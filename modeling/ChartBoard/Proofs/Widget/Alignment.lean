import ChartBoard.Proofs.Chart.HalfTyped
import ChartBoard.Proofs.Figure.Alignment
import ChartBoard.Proofs.Filtering.Shape
import ChartBoard.Proofs.Task
import ChartBoard.Proofs.Widget.Compiled
import ChartBoard.Widget.Rendered

/-!
# Rendered widgets are well formed

Whatever the engine answers, a rendered widget shows every value under its own label: from the rows
the chart is made in line with its labels, and new names, filters and the figure keep it so.

* `Rendered.WellFormed` says that of a rendered widget.
* `Source.shaped_chart` and `Source.shaped_filteredChart` are about its chart,
  `aligned_keyFigure` about key figures.
* `render_wellFormed` is the result.
-/

namespace ChartBoard.Widget

open Chart (Shaped)
open Result

variable {settings : Settings} {s : Source} {edges : List Relationship.Edge}
  {schemas : List Schema.Table} {view : View} {c : Compiled} {rows : List Record} {chart : Record}
  {r : Rendered}

/-- A widget with a value for each label, and with the names of its bars or lines in its legend. -/
structure Rendered.WellFormed (s : Source) (r : Rendered) : Prop where
  figure : r.figure.content.Aligned
  legend : s.kind = "bar" ∨ s.kind = "line" → ∀ chart ∈ r.chart, ∃ series,
    Record.get chart "series" = .list series ∧
      Chart.Lists (Record.get chart "legend") (series.map (·.get "name"))

/-! ## Charts -/

namespace Source

theorem ne_empty_of_mem_aliases {p : String × String} (h : p ∈ s.aliases) : p.2 ≠ "" := by
  unfold aliases at h
  split at h
  · exact Chart.ne_empty_of_mem_aliasesOfText h
  · exact Chart.ne_empty_of_mem_aliasesOfPairs h
  · cases h

theorem shaped_chart {settings : Settings} {constraints : Constraints} {theme : Option String}
    {limits : Limits} (hc : s.compile settings edges schemas constraints = .ok c)
    (hkpi : s.kind ≠ "kpi") (h : s.chart limits c theme rows = .ok chart) : Shaped chart s.kind := by
  have hkind : c.kind = s.kind := kind_of_compile hc
  unfold Source.chart at h
  rw [if_neg (by simpa [hkind] using hkpi)] at h
  obtain ⟨spec, hspec, h⟩ := bind_eq_ok.mp h
  obtain ⟨-, rfl⟩ := Chart.finished_eq_ok.mp h
  obtain ⟨_, -, hspec⟩ := bind_eq_ok.mp hspec
  obtain ⟨plot, hplot, hspec⟩ := bind_eq_ok.mp hspec
  obtain rfl := pure_eq_ok.mp hspec
  have hsuits : plot.Suits s.kind := by
    have hrequest : (s.request c).kind = s.kind := hkind
    rw [← hrequest]
    exact Chart.Request.suits_plot hplot
  have hkinds : s.kind ∈ ["bar", "line", "pie", "scatter", "radar"] := by
    have haccepted := (compile_eq_ok hc).1.kind
    simpa [chartKinds, hkpi] using haccepted
  refine (hsuits.shaped hkinds _).dressed ?_
  exact fun v new => Chart.truthy_newName? fun p hp => ne_empty_of_mem_aliases hp

theorem shaped_filteredChart {shown : Record} (h : Shaped chart s.kind)
    (hshown : s.filteredChart view chart = .ok shown) : Shaped shown s.kind := by
  unfold filteredChart at hshown
  split at hshown
  · obtain rfl := Except.ok.inj hshown
    exact h
  · obtain ⟨filters, -, rfl⟩ := map_eq_ok.mp hshown
    exact Filtering.shaped_filtered h

end Source

/-! ## Rendered widgets -/

/-- A key figure has a placeholder for its figure. -/
theorem aligned_keyFigure {theme : Figure.Theme} {f : Figure}
    (h : s.keyFigure rows = .ok chart) (hf : Figure.ofChart (.object chart) theme = .ok f) :
    f.content.Aligned := by
  obtain ⟨reading, -, h⟩ := bind_eq_ok.mp h
  obtain rfl := pure_eq_ok.mp h
  obtain rfl := Except.ok.inj hf
  exact Figure.aligned_placeholder _

theorem wellFormed_failed {sql : String} {fault : Fault}
    (h : Rendered.failed view sql rows fault = .ok r) : r.WellFormed s := by
  unfold Rendered.failed at h
  split at h
  · cases h
  · obtain ⟨figure, hfigure, h⟩ := bind_eq_ok.mp h
    obtain rfl := pure_eq_ok.mp h
    obtain rfl := Except.ok.inj hfigure
    refine ⟨Figure.aligned_placeholder _, fun _ chart hchart => ?_⟩
    cases hchart

theorem wellFormed_keyFigure {sql : String} (hkpi : s.kind = "kpi")
    (hchart : s.keyFigure rows = .ok chart) (h : Rendered.ofChart s view sql rows chart = .ok r) :
    r.WellFormed s := by
  obtain ⟨shown, hshown, h⟩ := bind_eq_ok.mp h
  obtain ⟨figure, hfigure, h⟩ := bind_eq_ok.mp h
  obtain rfl := pure_eq_ok.mp h
  rw [Source.filteredChart, if_pos (beq_iff_eq.mpr hkpi)] at hshown
  obtain rfl := Except.ok.inj hshown
  refine ⟨aligned_keyFigure hchart hfigure, fun hbars => ?_⟩
  simp [hkpi] at hbars

theorem wellFormed_ofChart {sql : String} (hshaped : Shaped chart s.kind)
    (h : Rendered.ofChart s view sql rows chart = .ok r) : r.WellFormed s := by
  obtain ⟨shown, hshown, h⟩ := bind_eq_ok.mp h
  obtain ⟨figure, hfigure, h⟩ := bind_eq_ok.mp h
  obtain rfl := pure_eq_ok.mp h
  have hshape : Shaped shown s.kind := s.shaped_filteredChart hshaped hshown
  refine ⟨Figure.aligned_ofChart hshape hfigure, fun hbars chart' hchart' => ?_⟩
  obtain rfl := Option.some.inj hchart'
  exact hshape.legend_names hbars

theorem wellFormed_ofRows (hc : s.compile settings edges schemas [] = .ok c)
    (h : Rendered.ofRows settings.limits s view c rows = .ok r) : r.WellFormed s := by
  unfold Rendered.ofRows at h
  split at h
  · exact wellFormed_failed h
  split at h
  · rename_i chart hchart
    by_cases hkpi : s.kind = "kpi"
    · have hkind : c.kind = "kpi" := (Source.kind_of_compile hc).trans hkpi
      rw [Source.chart, if_pos (beq_iff_eq.mpr hkind)] at hchart
      exact wellFormed_keyFigure hkpi hchart h
    · exact wellFormed_ofChart (Source.shaped_chart hc hkpi hchart) h
  · exact wellFormed_failed h

/-- Every widget that is rendered is well formed, whatever its source, its relationships, the answer
of the engine, the filters and the new names are. -/
theorem render_wellFormed {db db' : Engine.Database}
    (h : (render settings s edges schemas view).outcome db = (.ok r, db')) : r.WellFormed s := by
  unfold render at h
  cases hc : s.compile settings edges schemas [] with
  | error fault =>
    rw [hc] at h
    exact wellFormed_failed (Task.ofExcept_eq_ok.mp h).1
  | ok c =>
    rw [hc] at h
    obtain ⟨answer, next, -, h⟩ := Task.bind_eq_ok.mp h
    cases answer with
    | error fault => exact wellFormed_failed (Task.ofExcept_eq_ok.mp h).1
    | ok rows => exact wellFormed_ofRows hc (Task.ofExcept_eq_ok.mp h).1

/-- Sales by city, under another name. -/
def salesByCity : Source where
  tableName := "orders"
  xAxis := some "city"
  yAxis := some (.one "sales")
  chartType := "bar"
  options := { Options.none with seriesAliases := some (.lines "sales = Revenue") }

/-- A view of one city. -/
def onlyRome : View where
  filters := .ok [⟨"orders", "city", [.text "Rome"]⟩]

/-- An engine that answers with two cities. -/
def twoCities : Engine.Database where
  outcomes := [.table ["city", "sales"] [[.text "Oslo", .int 1], [.text "Rome", .int 2]]]

theorem render_wellFormed_onlyRome :
    ∃ r db', (render {} salesByCity [] [] onlyRome).outcome twoCities = (.ok r, db') ∧
      r.figure.content.categories = ["Rome"] ∧ r.WellFormed salesByCity := by
  have hcategories : ((render {} salesByCity [] [] onlyRome).outcome twoCities).1.toOption.map
      (·.figure.content.categories) = some ["Rome"] := by
    decide +kernel
  cases hrender : (render {} salesByCity [] [] onlyRome).outcome twoCities with
  | mk result db' =>
    rw [hrender] at hcategories
    cases result with
    | error fault => cases hcategories
    | ok r => exact ⟨r, db', rfl, Option.some.inj hcategories, render_wellFormed hrender⟩

end ChartBoard.Widget
