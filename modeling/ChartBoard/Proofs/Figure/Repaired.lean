import ChartBoard.Proofs.Chart.Counts
import ChartBoard.Proofs.Figure.Drawn
import ChartBoard.Proofs.Figure.Total
import Mathlib.Algebra.Group.Int.Defs

/-!
# Figures of repaired charts

What comes out of a repair has a point, and a pie among it has slices or is one of several series.
So it is drawn and never stands in for a chart that could not be.  What can still go wrong is the
reading of its numbers: an integer beyond the range of doubles is kept by the repair, and the figure
is refused.

* `shown_drawn` says of a repaired chart that it is no fallback when it is drawn, `shown_barChart`
  says so of the chart of rows.
* `repaired_shown` is the result for any chart, with the points that the repair has kept.
* `not_repaired_shown` gives a chart whose figure is refused.
-/

namespace ChartBoard.Figure

open Chart (Repaired RepairedSerie Shown barChart givenSeries pointCounts)
open Datum Result

variable {r : Record} {theme : Theme} {f : Figure}

theorem ofName_eq_pie {name : String} (h : Kind.ofName name = .pie) : name = "pie" := by
  unfold Kind.ofName at h
  split at h
  · rename_i hpie
    exact beq_iff_eq.mp hpie
  · repeat (split at h; · cases h)
    cases h

/-! ## Repaired series -/

section Repaired

variable {series : List RepairedSerie}

theorem isObject_toDatum : ∀ v ∈ series.map (·.toDatum), v.isObject = true :=
  List.forall_mem_map.mpr fun _ _ => rfl

theorem itemsIn_repairedSerie (s : RepairedSerie) : itemsIn s.toDatum "data" = s.shown.points :=
  itemsIn_of_get (Record.get_of_get? _ _ _ s.get?_data)

theorem kindOf_repaired {s : RepairedSerie} {rest : List RepairedSerie}
    (hseries : seriesOf (.object r) = (s :: rest).map (·.toDatum)) :
    kindOf (.object r) = .ofName s.kind := by
  have htype : s.toDatum.get "type" = .text s.kind := Record.get_of_get? _ _ _ s.get?_type
  have hlabel : (Datum.text s.kind).label = s.kind := rfl
  have hkind : s.kind.isEmpty = false := by simpa using s.kind_ne_empty
  simp only [kindOf, hseries, List.map_cons, List.head?_cons, Option.map_some, Option.getD_some,
    htype, hlabel, s.lower_kind, hkind, Bool.false_eq_true, if_false]

theorem exists_object_of_pie {s : RepairedSerie} (hkind : s.kind = "pie")
    (hpoints : s.shown.points ≠ []) :
    ∃ first rest, s.shown.points = .object first :: rest := by
  have hfinal := s.final
  rw [hkind] at hfinal
  cases hshown : s.shown with
  | slices slices =>
    rw [hshown] at hpoints
    cases slices with
    | nil => exact absurd rfl hpoints
    | cons x rest => exact ⟨_, _, rfl⟩
  | others points =>
    rw [hshown] at hfinal
    cases hfinal with
    | others hplain =>
      have hobject := (hplain.resolve_left (by decide)).2 rfl
      cases points with
      | nil => cases hobject
      | cons p rest =>
        cases p with
        | object members => exact ⟨members, rest, rfl⟩
        | _ => cases hobject

/-- A pie of a repaired chart has slices, or else there are other series with points. -/
theorem shown_pieOf (h : Repaired r series) (hkind : kindOf (.object r) = .pie)
    (hf : pieOf (.object r) theme = .ok f) : f.fallback = false := by
  have hlisted : seriesOf (.object r) = series.map (·.toDatum) :=
    seriesOf_of_objects (Record.get_of_get? _ _ _ h.get?_series) isObject_toDatum
  obtain ⟨t, ht, hpoints⟩ := h.drawable
  unfold pieOf at hf
  dsimp only at hf
  split at hf
  · obtain ⟨values, -, hf⟩ := bind_eq_ok.mp hf
    obtain rfl := pure_eq_ok.mp hf
    rfl
  · rename_i hnone
    split at hf
    · obtain ⟨values, -, hf⟩ := bind_eq_ok.mp hf
      obtain rfl := pure_eq_ok.mp hf
      rfl
    · rename_i hone
      obtain ⟨s, rest, rfl⟩ := List.exists_cons_of_ne_nil (List.ne_nil_of_mem ht)
      have hsingle : rest = [] := by
        rw [hlisted, List.length_map, List.length_cons] at hone
        exact List.eq_nil_of_length_eq_zero (by omega)
      obtain rfl := List.mem_singleton.mp (hsingle ▸ ht)
      have hpie := ofName_eq_pie ((kindOf_repaired hlisted).symm.trans hkind)
      obtain ⟨first, items, hitems⟩ := exists_object_of_pie hpie hpoints
      refine absurd ?_ (hnone first items)
      rw [hlisted, List.map_cons, List.head?_cons, Option.map_some, Option.getD_some,
        itemsIn_repairedSerie, hitems]

theorem shown_axisOf {chart : Datum} {curved : Bool} (hf : axisOf chart curved theme = .ok f) :
    f.fallback = false := by
  obtain ⟨lines, -, hf⟩ := bind_eq_ok.mp hf
  obtain rfl := pure_eq_ok.mp hf
  rfl

theorem shown_drawn (h : Repaired r series) (hf : drawn (.object r) theme = .ok f) :
    f.fallback = false := by
  unfold drawn at hf
  cases hkind : kindOf (.object r) with
  | pie =>
    rw [hkind] at hf
    exact shown_pieOf h hkind hf
  | radar =>
    rw [hkind] at hf
    obtain ⟨lines, -, hf⟩ := bind_eq_ok.mp hf
    obtain rfl := pure_eq_ok.mp hf
    rfl
  | scatter =>
    rw [hkind] at hf
    obtain ⟨clouds, -, hf⟩ := bind_eq_ok.mp hf
    obtain rfl := pure_eq_ok.mp hf
    rfl
  | line =>
    rw [hkind] at hf
    exact shown_axisOf hf
  | bar =>
    rw [hkind] at hf
    exact shown_axisOf hf

end Repaired

/-! ## Charts of rows -/

/-- A chart with a single series of bars is drawn as bars. -/
theorem ofChart_of_bars {members : Record}
    (hseries : Record.get r "series" = .list [.object members])
    (htype : Record.get members "type" = .text "bar")
    (hpoints : Chart.hasPoints (.object members) = true) (hkpi : Record.get r "kpi" = .null)
    (hmark : Record.get r emptyMark = .null) (theme : Theme) :
    ofChart (.object r) theme = axisOf (.object r) false theme := by
  have hobjects : ∀ v ∈ [Datum.object members], v.isObject = true :=
    List.forall_mem_singleton.mpr rfl
  have hdrawable : Chart.isDrawable (.object r) = true := by
    rw [Chart.isDrawable, get_object, hseries]
    simp [hpoints]
  have hkind : kindOf (.object r) = .ofName "bar" :=
    kindOf_of_type (by decide) (seriesOf_of_objects hseries hobjects) htype
  rw [ofChart_eq_drawn hseries hobjects hkpi hmark hdrawable]
  unfold drawn
  rw [hkind]
  rfl

/-- A bar chart with a value is drawn, and is no fallback. -/
theorem shown_barChart {title : Datum} {categories : List String} {x y : String}
    {values : List Datum} (hvalues : values ≠ [])
    (hf : ofChart (.object (barChart title categories x y values)) theme = .ok f) :
    f.fallback = false := by
  have hseries : Record.get (barChart title categories x y values) "series" =
      .list [.object [("type", .text "bar"), ("name", .text y), ("data", .list values)]] := by
    simp [barChart]
  rw [ofChart_of_bars hseries (by simp) (by simp [Chart.hasPoints, hvalues]) rfl rfl] at hf
  exact shown_axisOf hf

/-! ## Charts of any form -/

section

variable {settings : Settings} {raw chart : Record} {rows : Datum}

theorem get_of_has_eq_false {name : String} (h : Record.has raw name = false) :
    Record.get raw name = .null := by
  rw [Record.has, Option.isSome_eq_false_iff, Option.isNone_iff_eq_none] at h
  rw [Record.get, h]
  rfl

/-- Neither datasets nor a repair add a member that marks a chart as not to be drawn. -/
theorem get_repaired_eq_null {series : List Datum} {name : String}
    (h : Chart.withRepairedSeries (Chart.withoutDatasets raw) series = .ok chart)
    (hname : name ∉ ["title", "xAxis", "yAxis", "series"])
    (hraw : Record.has raw name = false) : Record.get chart name = .null := by
  simp only [List.mem_cons, List.not_mem_nil, or_false, not_or] at hname
  obtain ⟨htitle, hxAxis, hyAxis, hseries⟩ := hname
  rw [Chart.get_withRepairedSeries_of_ne h (Ne.symm hseries) (Ne.symm hxAxis)]
  cases hdatasets : Chart.hasDatasets raw with
  | false =>
    rw [Chart.withoutDatasets_of_not hdatasets, get_of_has_eq_false hraw]
  | true =>
    obtain ⟨labels, datasets, -, hmade⟩ := Chart.withoutDatasets_of_hasDatasets hdatasets
    have hempty : Record.get [] name = .null := rfl
    rw [hmade]
    simp [Chart.chartOfDatasets, Ne.symm htitle, Ne.symm hxAxis, Ne.symm hyAxis, Ne.symm hseries,
      hempty]

/-- A repair keeps the series and their points or falls back on the rows, and what it gives is
drawn, unless a number in it is too large to be read. -/
theorem repaired_shown (hkpi : Record.has raw "kpi" = false)
    (hmark : Record.has raw emptyMark = false) (htop : 1 ≤ settings.fallbackTop)
    (h : Chart.repaired settings (.object raw) rows = .ok (some chart)) :
    ((Chart.repaired settings (.object raw) .null = .ok (some chart) ∧
          ∃ series, Record.get chart "series" = .list series ∧
            pointCounts series = pointCounts (givenSeries raw)) ∨
        (Chart.repaired settings (.object raw) .null = .ok none ∧
          Chart.chartOfRows settings Chart.generatedTitle rows = .ok (some chart))) ∧
      ∀ theme, (∃ f, ofChart (.object chart) theme = .ok f ∧ f.fallback = false) ∨
        ((Datum.object chart).inRange = false ∧
          ofChart (.object chart) theme = .error .numberTooLarge) := by
  have hplain : (Record.get raw "kpi").isObject = false := by
    rw [get_of_has_eq_false hkpi]
    rfl
  -- all that keeps a chart from having a figure is its range
  have hrange (theme : Theme) (hshown : ∀ f, ofChart (.object chart) theme = .ok f →
      f.fallback = false) : (∃ f, ofChart (.object chart) theme = .ok f ∧ f.fallback = false) ∨
        ((Datum.object chart).inRange = false ∧
          ofChart (.object chart) theme = .error .numberTooLarge) := by
    obtain ⟨hfits, hfault⟩ := ranged_ofChart (.object chart) theme
    cases hf : ofChart (.object chart) theme with
    | ok f => exact .inl ⟨f, rfl, hshown f hf⟩
    | error fault =>
      refine .inr ⟨?_, congrArg _ (hfault fault hf)⟩
      by_contra hin
      obtain ⟨f, hok⟩ := hfits (by simpa using hin)
      cases hf.symm.trans hok
  rcases Chart.repaired_cases hplain h with ⟨halone, hdrawable, series, hseries, hmade⟩ |
    ⟨hnone, hrows⟩
  · obtain ⟨made, hlist, hcounts⟩ := Chart.pointCounts_withRepairedSeries hmade
    have hgiven := hcounts.trans (Chart.pointCounts_givenSeries hseries)
    refine ⟨.inl ⟨halone, made, hlist, hgiven⟩, fun theme => hrange theme fun f hf => ?_⟩
    obtain ⟨repaired, hrepaired, -⟩ :=
      Chart.exists_of_withRepairedSeries (Chart.plain_withoutDatasets hplain) hmade hdrawable
    rw [ofChart_eq_drawn (Record.get_of_get? _ _ _ hrepaired.get?_series) isObject_toDatum
      (get_repaired_eq_null hmade (by decide) hkpi)
      (get_repaired_eq_null hmade (by decide) hmark) hdrawable] at hf
    exact shown_drawn hrepaired hf
  · refine ⟨.inr ⟨hnone, hrows⟩, fun theme => hrange theme fun f hf => ?_⟩
    obtain ⟨title, categories, x, y, values, rfl, -, -, hvalues⟩ := Chart.exists_barChart hrows
    exact shown_barChart (hvalues htop) hf

end

/-- A dataset of two values and one without points. -/
def twoDatasets : Record :=
  [("data", .object
    [("labels", .list [.text "Rome", .text "Oslo"]),
     ("datasets", .list [
       .object [("label", .text "Total"), ("data", .list [.float 2.0, .float 3.0])],
       .object [("label", .text "None")]])])]

theorem repaired_shown_twoDatasets : ∃ chart,
    Chart.repaired {} (.object twoDatasets) .null = .ok (some chart) ∧
      (∃ series, Record.get chart "series" = .list series ∧ pointCounts series = [2, 0]) ∧
        ∃ f, ofChart (.object chart) {} = .ok f ∧ f.fallback = false := by
  obtain ⟨chart, hchart⟩ : ∃ chart,
      Chart.repaired {} (.object twoDatasets) .null = .ok (some chart) := ⟨_, rfl⟩
  have hgiven : (Datum.object twoDatasets).inRange = true := rfl
  have hrange : (Datum.object chart).inRange = true := Chart.inRange_of_repaired hgiven hchart
  obtain ⟨hmade, hfigure⟩ := repaired_shown rfl rfl (by decide) hchart
  refine ⟨chart, hchart, ?_, ?_⟩
  · rcases hmade with ⟨-, series, hseries, hcounts⟩ | ⟨hnone, -⟩
    · exact ⟨series, hseries, hcounts⟩
    · cases hchart.symm.trans hnone
  · rcases hfigure {} with hf | ⟨hrefused, -⟩
    · exact hf
    · cases hrange.symm.trans hrefused

/-- A series with an integer beyond the range of doubles. -/
def hugeSeries : Record := [("series", .list [.object [("data", .list [.int (10 ^ 400)])]])]

/-- Bars of a single value. -/
def singleBar (v : Datum) : Record :=
  [("series", .list [.object [("data", .list [v]), ("type", .text "bar"),
    ("name", .text "Series 1")]])]

/-- What cannot be read as a number keeps its bar from being drawn. -/
theorem ofChart_singleBar_of_error {v : Datum} {fault : Fault} (h : v.number = .error fault) :
    ofChart (.object (singleBar v)) {} = .error fault := by
  have hdrawn := ofChart_of_bars (r := singleBar v) rfl rfl rfl rfl rfl {}
  have hline : lineOf "data" (.object [("data", .list [v]), ("type", .text "bar"),
      ("name", .text "Series 1")]) 0 = .error fault := by
    have hitems : itemsIn (.object [("data", .list [v]), ("type", .text "bar"),
        ("name", .text "Series 1")]) "data" = [v] := rfl
    rw [lineOf, hitems, numbersOf, List.mapM_cons, h]
    rfl
  have hlines : linesOf "data" (seriesOf (.object (singleBar v))) = .error fault := by
    have hseries : seriesOf (.object (singleBar v)) = [.object [("data", .list [v]),
        ("type", .text "bar"), ("name", .text "Series 1")]] := rfl
    rw [hseries, linesOf, List.zipIdx_singleton, List.mapM_cons]
    dsimp only
    rw [hline]
    rfl
  rw [hdrawn, axisOf_eq, hlines]
  rfl

/-- The figure of such a series is refused. -/
theorem not_repaired_shown : ¬ ∀ (settings : Settings) (raw : Record) (rows : Datum)
    (chart : Record), Record.has raw "kpi" = false → Record.has raw emptyMark = false →
      1 ≤ settings.fallbackTop →
        Chart.repaired settings (.object raw) rows = .ok (some chart) →
          ∀ theme, ∃ f, ofChart (.object chart) theme = .ok f ∧ f.fallback = false := by
  intro hshown
  have hrepaired : Chart.repaired {} (.object hugeSeries) .null =
      .ok (some (singleBar (.int (10 ^ 400)))) := by
    rfl
  have hnumber : (Datum.int (10 ^ 400)).number = .error .numberTooLarge :=
    number_of_overflow (by decide +kernel)
  obtain ⟨f, hf, -⟩ := hshown {} hugeSeries .null _ rfl rfl (by decide) hrepaired {}
  cases hf.symm.trans (ofChart_singleBar_of_error hnumber)

end ChartBoard.Figure
