import ChartBoard.Proofs.Chart.Total

/-!
# Points that a repair keeps

However a chart is given, as series, as a single series or as labels with datasets, a repair makes
of each of its series one with as many points.

* `pointCounts` are the numbers of points, `givenSeries` the series that a chart comes with.
* `pointCounts_repairedSeries` says that they stay the same.
* `repaired_cases` says what a repaired chart is: made of the series that were given, or of the rows
  to fall back on.
-/

namespace ChartBoard.Chart

open Result

/-- How many points a series has; none if they are not in a list. -/
def pointCount (serie : Datum) : Nat := ((serie.get "data").asList?.getD []).length

/-- How many points each series has. -/
def pointCounts (series : List Datum) : List Nat := series.map pointCount

/-- The series that a chart comes with, datasets included. -/
def givenSeries (chart : Record) : List Datum :=
  if hasDatasets chart then ((Record.get chart "data").get "datasets").asList?.getD []
  else (seriesOf? chart).getD []

/-! ## Points -/

section

variable {points : List Datum} {labels : List String} {kind : String}
  {axis : Option (List String)} {inferred : List String}

theorem length_foundPoints {found : Option (List String) × List Datum}
    (h : foundPoints kind points = .ok found) : found.2.length = points.length := by
  unfold foundPoints plainPoints at h
  split at h
  · rw [← Except.ok.inj h]
  split at h
  · split at h
    · obtain ⟨values, hvalues, h⟩ := bind_eq_ok.mp h
      rw [← Except.ok.inj h]
      exact length_of_mapM_eq_ok hvalues
    · rw [← Except.ok.inj h]
  · rw [← Except.ok.inj h]

theorem length_slicesOf {slices : List Datum} (h : slicesOf labels points = .ok slices) :
    slices.length = points.length :=
  (length_of_mapM_eq_ok h).trans List.length_zipIdx

theorem length_seriePoints {made : List String × List Datum}
    (h : seriePoints kind axis inferred points = .ok made) : made.2.length = points.length := by
  rw [seriePoints_eq] at h
  obtain ⟨found, hfound, h⟩ := bind_eq_ok.mp h
  rw [← length_foundPoints hfound]
  split at h
  · obtain ⟨slices, hslices, h⟩ := map_eq_ok.mp h
    rw [← h]
    exact length_slicesOf hslices
  · rw [← Except.ok.inj h]

end

/-! ## Series -/

section

variable {chart : Record} {axis : Option (List String)} {inferred labels : List String}
  {position : Nat}

theorem pointCount_repairedSerie {v w : Datum}
    (h : repairedSerie chart axis inferred position v = .ok (labels, w)) :
    pointCount w = pointCount v := by
  rw [repairedSerie_eq] at h
  obtain ⟨made, hmade, h⟩ := map_eq_ok.mp h
  obtain ⟨-, rfl⟩ := Prod.mk.inj h
  have hdata : (Datum.object (repairedMembers v.members (serieKind chart v.members)
      (nameOrNumber (Record.get v.members "name") "Series" position) made.2)).get "data" =
        .list made.2 := by
    simp [repairedMembers]
  rw [pointCount, hdata]
  exact length_seriePoints hmade

/-- Series keep the number of their points when they are repaired. -/
theorem pointCounts_repairedSeries {vs ws : List Datum}
    (h : repairedSeries chart axis inferred position vs = .ok (labels, ws)) :
    pointCounts ws = pointCounts vs := by
  induction vs generalizing inferred position ws with
  | nil =>
    obtain ⟨-, rfl⟩ := Prod.mk.inj (Except.ok.inj h)
    rfl
  | cons v rest ih =>
    obtain ⟨⟨carried, w⟩, hw, h⟩ := bind_eq_ok.mp h
    obtain ⟨⟨carried', ws'⟩, hws, h⟩ := bind_eq_ok.mp h
    obtain ⟨rfl, rfl⟩ := Prod.mk.inj (Except.ok.inj h)
    exact congrArg₂ List.cons (pointCount_repairedSerie hw) (ih hws)

end

/-! ## Charts -/

section

variable {settings : Settings} {raw chart : Record} {rows : Datum}

/-- Datasets have as many points as the series that they mean. -/
theorem pointCounts_givenSeries {series : List Datum}
    (h : seriesOf? (withoutDatasets raw) = some series) :
    pointCounts series = pointCounts (givenSeries raw) := by
  unfold givenSeries
  cases hdatasets : hasDatasets raw with
  | false =>
    rw [withoutDatasets_of_not hdatasets] at h
    simp [h]
  | true =>
    obtain ⟨labels, datasets, hgiven, hmade⟩ := withoutDatasets_of_hasDatasets hdatasets
    rw [hmade] at h
    obtain rfl := Option.some.inj h
    rw [hgiven, if_pos rfl]
    have hcount (kind : String) : (pointCount ∘ fun p : Datum × Nat =>
        serieOfDataset kind p.1 p.2) = pointCount ∘ Prod.fst := by
      funext p
      simp [pointCount, serieOfDataset, Datum.asList?]
    rw [pointCounts, pointCounts, List.map_map, hcount, ← List.map_map, List.zipIdx_map_fst]
    rfl

/-- A repair leaves all members alone but the series and the X axis. -/
theorem get_withRepairedSeries_of_ne {series : List Datum} {name : String}
    (h : withRepairedSeries raw series = .ok chart) (hseries : "series" ≠ name)
    (hxAxis : "xAxis" ≠ name) : Record.get chart name = Record.get raw name := by
  rw [withRepairedSeries_eq] at h
  obtain ⟨found, -, rfl⟩ := map_eq_ok.mp h
  rw [Record.get, get?_withAxisLabels hxAxis, Record.get?_set, if_neg hseries, Record.get]

theorem pointCounts_withRepairedSeries {series : List Datum}
    (h : withRepairedSeries raw series = .ok chart) :
    ∃ made, Record.get chart "series" = .list made ∧ pointCounts made = pointCounts series := by
  rw [withRepairedSeries_eq] at h
  obtain ⟨⟨labels, made⟩, hmade, rfl⟩ := map_eq_ok.mp h
  refine ⟨made, ?_, pointCounts_repairedSeries hmade⟩
  rw [Record.get, get?_withAxisLabels (by decide), Record.get?_set, if_pos rfl, Option.getD_some]

/-- A repaired chart is made of its own series, or of the rows if it has no points to draw. -/
theorem repaired_cases (hkpi : (Record.get raw "kpi").isObject = false)
    (h : repaired settings (.object raw) rows = .ok (some chart)) :
    (repaired settings (.object raw) .null = .ok (some chart) ∧
        isDrawable (.object chart) = true ∧
          ∃ series, seriesOf? (withoutDatasets raw) = some series ∧
            withRepairedSeries (withoutDatasets raw) series = .ok chart) ∨
      (repaired settings (.object raw) .null = .ok none ∧
        chartOfRows settings generatedTitle rows = .ok (some chart)) := by
  have hfallback : fallbackChart settings .null = .ok none := rfl
  obtain ⟨hlevels, h⟩ := repaired_eq_ok.mp h
  rw [repaired_of_le hlevels]
  cases hseries : seriesOf? (withoutDatasets raw) with
  | none =>
    rw [mended_of_none hkpi hseries] at h ⊢
    exact .inr ⟨hfallback, h⟩
  | some series =>
    rw [mended_of_series hkpi hseries] at h ⊢
    obtain ⟨result, hresult, h⟩ := bind_eq_ok.mp h
    rw [hresult]
    split at h
    · rename_i hdrawable
      obtain rfl := Option.some.inj (Except.ok.inj h)
      exact .inl ⟨if_pos hdrawable, hdrawable, series, rfl, hresult⟩
    · rename_i hdrawable
      exact .inr ⟨(if_neg hdrawable).trans hfallback, h⟩

end

end ChartBoard.Chart
