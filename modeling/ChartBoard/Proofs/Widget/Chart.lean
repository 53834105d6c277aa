import ChartBoard.Figure.OfChart
import ChartBoard.Proofs.Chart.Range
import ChartBoard.Proofs.Chart.Shape
import ChartBoard.Proofs.Figure.Total
import ChartBoard.Widget.Chart

/-!
# Charts of widgets

What holds of the chart that is made of the rows of a widget, whatever the rows are.

* `Source.chart_of_ne_kpi` says that only the rows can fail a chart that is no key figure: its
  description is always copied.
* `Source.chart_eq_ok` and `Source.keyFigure_eq_ok` say what the two kinds of charts are,
  `Source.exists_slices` what a pie is made of.
* `Source.exists_figure` says that the chart has a figure, `Source.unmarked_chart` that it is not
  marked as left empty by a filter.
-/

namespace ChartBoard.Widget.Source

open Datum Result

variable {limits : Limits} {s : Source} {c : Compiled} {theme : Option String} {rows : List Record}
  {chart : Record}

/-- The titles are texts, or left open. -/
theorem titles_all {P : Datum → Prop} (h : ∀ t, P (ofText? t)) : (s.request c).titles.All P := by
  unfold request
  -- the titles are reduced to texts first; left to unification, the texts would be unfolded
  constructor <;> dsimp only
  · exact h _
  · exact h _
  · exact h _
  · exact h none

/-- The description of the rows nests too little for its copy to be refused. -/
theorem chart_of_ne_kpi (hkpi : c.kind ≠ "kpi") :
    s.chart limits c theme rows =
      ((s.request c).spec rows).map fun spec =>
        Chart.dressed theme [] (Chart.newNames s.aliases) s.legendDatum spec.toRecord := by
  unfold Source.chart
  rw [if_neg (by simpa using hkpi)]
  cases hspec : (s.request c).spec rows with
  | error fault => rfl
  | ok spec =>
    have hlevels := Chart.levels_spec (titles_all levels_ofText?) hspec
    exact Chart.finished_eq_ok.mpr ⟨by have := limits.eight_le_copying; omega, rfl⟩

/-- A chart that is no key figure is the finished specification of the rows. -/
theorem chart_eq_ok (hkpi : c.kind ≠ "kpi") (h : s.chart limits c theme rows = .ok chart) :
    ∃ spec, (s.request c).spec rows = .ok spec ∧
      chart = Chart.dressed theme [] (Chart.newNames s.aliases) s.legendDatum spec.toRecord := by
  rw [chart_of_ne_kpi hkpi] at h
  obtain ⟨spec, hspec, rfl⟩ := map_eq_ok.mp h
  exact ⟨spec, hspec, rfl⟩

/-- A key figure has a single member, an object that is not empty. -/
theorem keyFigure_eq_ok (h : s.keyFigure rows = .ok chart) :
    ∃ label members, chart = [("kpi", .object (("label", label) :: members))] := by
  obtain ⟨reading, -, h⟩ := bind_eq_ok.mp h
  exact ⟨_, _, (pure_eq_ok.mp h).symm⟩

/-! ## Pies -/

theorem exists_slices (hpie : c.kind = "pie") (h : s.chart limits c theme rows = .ok chart) :
    ∃ first slices, Record.get chart "series" = .list [.object first] ∧
      Record.get first "data" = .list slices ∧ ∀ v ∈ slices, v.isObject = true := by
  obtain ⟨spec, hspec, rfl⟩ := chart_eq_ok (by rw [hpie]; decide) h
  obtain ⟨_, -, hspec⟩ := bind_eq_ok.mp hspec
  obtain ⟨plot, hplot, hspec⟩ := bind_eq_ok.mp hspec
  obtain rfl := pure_eq_ok.mp hspec
  have hsuits : plot.Suits "pie" := hpie ▸ Chart.Request.suits_plot hplot
  cases hsuits with
  | axis hne => exact absurd rfl hne
  | @pie name slices =>
    obtain ⟨first, hfirst, -, hdata⟩ := Chart.renamedSeries_object (Chart.newNames s.aliases)
      [("name", name), ("type", .text "pie"), ("data", .list (slices.map Chart.Slice.toDatum))]
    refine ⟨first, slices.map Chart.Slice.toDatum, ?_, hdata.trans (by simp), ?_⟩
    · rw [Chart.get_dressed_series (by simp [Chart.Spec.toRecord, Chart.Plot.toRecord]; rfl),
        List.map_cons, hfirst, List.map_nil]
    · intro v hv
      obtain ⟨slice, -, rfl⟩ := List.mem_map.mp hv
      rfl
  | radar hne => exact absurd hne (by decide)
  | scatter hne => exact absurd hne (by decide)

/-! ## Figures -/

theorem inRange_legendDatum : s.legendDatum.inRange = true := by
  unfold legendDatum
  cases s.options.showLegend <;> rfl

theorem inRange_chart (hkpi : c.kind ≠ "kpi") (h : s.chart limits c theme rows = .ok chart) :
    (object chart).inRange = true := by
  obtain ⟨spec, hspec, rfl⟩ := chart_eq_ok hkpi h
  exact Chart.inRange_dressed theme (by simp) (Chart.inRange_newNames _) inRange_legendDatum
    (Chart.inRange_spec (titles_all inRange_ofText?) hspec)

/-- Whatever the rows of a widget are, their chart has a figure. -/
theorem exists_figure (h : s.chart limits c theme rows = .ok chart) (look : Figure.Theme) :
    ∃ figure, Figure.ofChart (.object chart) look = .ok figure := by
  by_cases hkpi : c.kind = "kpi"
  · rw [Source.chart, if_pos (beq_iff_eq.mpr hkpi)] at h
    obtain ⟨label, members, rfl⟩ := keyFigure_eq_ok h
    exact ⟨_, rfl⟩
  · exact (Figure.ranged_ofChart (.object chart) look).1 (inRange_chart hkpi h)

/-! ## Marks -/

theorem unmarked_spec (spec : Chart.Spec) :
    Record.get spec.toRecord Figure.emptyMark = .null := by
  obtain ⟨title, plot⟩ := spec
  cases plot <;> simp [Chart.Spec.toRecord, Chart.Plot.toRecord, Figure.emptyMark] <;> rfl

theorem unmarked_chart (h : s.chart limits c theme rows = .ok chart) :
    Record.get chart Figure.emptyMark = .null := by
  by_cases hkpi : c.kind = "kpi"
  · rw [Source.chart, if_pos (beq_iff_eq.mpr hkpi)] at h
    obtain ⟨label, members, rfl⟩ := keyFigure_eq_ok h
    rfl
  · obtain ⟨spec, -, rfl⟩ := chart_eq_ok hkpi h
    rw [Chart.get_dressed (by simp [Figure.emptyMark]), unmarked_spec]

end ChartBoard.Widget.Source
