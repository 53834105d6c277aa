import ChartBoard.Proofs.Chart.Shape
import ChartBoard.Proofs.Figure.Drawn

/-!
# Aligned figures

A figure is aligned when it has a value for each of its labels: in every line of a bar, line or
radar figure, and in a pie.

* `Content.Aligned` says that of what a figure shows.
* `aligned_ofChart` says it of the figure of a chart in line with its labels.
-/

namespace ChartBoard.Figure

open Chart (IsOf IsRow IsSerie Shaped)
open Result

/-- A value for each label. -/
def Content.Aligned : Content → Prop
  | axis _ categories lines _ _ => ∀ l ∈ lines, l.values.length = categories.length
  | pie labels values => labels.length = values.length
  | radar labels lines => ∀ l ∈ lines, l.values.length = labels.length
  | scatter .. => True

variable {chart : Datum} {theme : Theme} {f : Figure}

theorem aligned_placeholder (title : Datum) : (placeholder title theme).content.Aligned := by
  intro l hl
  obtain rfl := List.mem_singleton.mp hl
  rfl

/-! ## Content by kind -/

theorem length_lineOf {member : String} {serie : Datum} {position : Nat} {l : Line}
    (h : lineOf member serie position = .ok l) :
    l.values.length = (itemsIn serie member).length := by
  obtain ⟨xs, hxs, h⟩ := bind_eq_ok.mp h
  obtain rfl := pure_eq_ok.mp h
  rw [List.length_map]
  exact length_of_mapM_eq_ok hxs

theorem length_of_mem_lines {member : String} {size : Nat} {series : List Datum} {lines : List Line}
    (hsize : ∀ v ∈ series, (itemsIn v member).length = size)
    (h : series.zipIdx.mapM (fun (v, i) => lineOf member v i) = .ok lines) :
    ∀ l ∈ lines, l.values.length = size := by
  intro l hl
  obtain ⟨⟨v, i⟩, hv, hline⟩ := of_mem_of_mapM_eq_ok h hl
  rw [length_lineOf hline]
  exact hsize v (List.fst_mem_of_mem_zipIdx hv)

theorem aligned_pieOf (h : pieOf chart theme = .ok f) : f.content.Aligned := by
  unfold pieOf at h
  extract_lets series at h
  split at h
  · obtain ⟨values, hvalues, h⟩ := bind_eq_ok.mp h
    obtain rfl := pure_eq_ok.mp h
    have hlength := length_of_mapM_eq_ok hvalues
    simp only [List.length_map] at hlength
    simp only [framed, Content.Aligned, List.length_map, hlength]
  · split at h
    · obtain ⟨values, hvalues, h⟩ := bind_eq_ok.mp h
      obtain rfl := pure_eq_ok.mp h
      have hlength := length_of_mapM_eq_ok hvalues
      simp only [framed, Content.Aligned, List.length_map, List.length_zipIdx, hlength]
    · obtain rfl := Except.ok.inj h
      rfl

theorem aligned_radarOf {size : Nat} (h : radarOf chart theme = .ok f)
    (hlabels : (itemsIn (chart.get "radar") "indicator").length = size)
    (hrows : ∀ first ∈ (seriesOf chart).head?, ∀ row ∈ itemsIn first "data",
      (itemsIn row "value").length = size) : f.content.Aligned := by
  unfold radarOf at h
  extract_lets labels rows at h
  obtain ⟨lines, hlines, h⟩ := bind_eq_ok.mp h
  obtain rfl := pure_eq_ok.mp h
  have hsize : labels.length = size := by rw [List.length_map, hlabels]
  intro l hl
  rw [hsize]
  refine length_of_mem_lines ?_ hlines l hl
  intro row hrow
  have hmem : row ∈ rows := (List.mem_filter.mp hrow).1
  cases hfirst : (seriesOf chart).head? with
  | none => simp [rows, hfirst] at hmem
  | some first =>
    simp only [rows, hfirst, Option.map_some, Option.getD_some] at hmem
    exact hrows first hfirst row hmem

theorem aligned_scatterOf (h : scatterOf chart theme = .ok f) : f.content.Aligned := by
  unfold scatterOf at h
  obtain ⟨clouds, -, h⟩ := bind_eq_ok.mp h
  obtain rfl := pure_eq_ok.mp h
  trivial

theorem aligned_axisOf {curved : Bool} {size : Nat} (h : axisOf chart curved theme = .ok f)
    (hlabels : (itemsIn (chart.get "xAxis") "data").length = size)
    (hseries : ∀ v ∈ seriesOf chart, (itemsIn v "data").length = size) : f.content.Aligned := by
  unfold axisOf at h
  extract_lets categories at h
  obtain ⟨lines, hlines, h⟩ := bind_eq_ok.mp h
  obtain rfl := pure_eq_ok.mp h
  have hsize : categories.length = size := by rw [List.length_map, hlabels]
  intro l hl
  rw [hsize]
  exact length_of_mem_lines hseries hlines l hl

/-! ## Charts in line with their labels -/

section Shaped

variable {r : Record} {kind : String}

theorem isObject_of_isOf {series : List Datum} (hof : ∀ v ∈ series, IsOf kind v) :
    ∀ v ∈ series, v.isObject = true := by
  intro v hv
  obtain ⟨members, rfl, -⟩ := hof v hv
  rfl

theorem seriesOf_of_shaped {series : List Datum} (h : Shaped r kind)
    (hseries : Record.get r "series" = .list series) : seriesOf (.object r) = series := by
  obtain ⟨series', hseries', hof⟩ := h.series_isOf
  obtain rfl := Datum.list.inj (hseries'.symm.trans hseries)
  exact seriesOf_of_objects hseries (isObject_of_isOf hof)

/-- No chart in line with its labels is a bare list of numbers. -/
theorem barePie?_of_shaped (h : Shaped r kind) : barePie? (.object r) = none := by
  obtain ⟨series, hseries, hof⟩ := h.series_isOf
  exact barePie?_of_objects hseries (isObject_of_isOf hof)

/-- A chart in line with its labels is drawn by its kind. -/
theorem kindOf_of_shaped (h : Shaped r kind) (hdrawable : Chart.isDrawable (.object r) = true) :
    kindOf (.object r) = .ofName kind := by
  obtain ⟨series, hseries, hof⟩ := h.series_isOf
  rw [Chart.isDrawable, Datum.get_object, hseries] at hdrawable
  cases series with
  | nil => cases hdrawable
  | cons first rest =>
    obtain ⟨members, rfl, htype⟩ := hof first List.mem_cons_self
    exact kindOf_of_type h.kind_mem (seriesOf_of_shaped h hseries) htype

theorem aligned_drawn (h : Shaped r kind) (hdrawable : Chart.isDrawable (.object r) = true)
    (hf : drawn (.object r) theme = .ok f) : f.content.Aligned := by
  have hkindOf := kindOf_of_shaped h hdrawable
  unfold drawn at hf
  rw [hkindOf] at hf
  have hall := h
  cases h with
  | @axis _ axis labels series hkind hx hlabels hs haligned =>
    have hsize : (itemsIn ((Datum.object r).get "xAxis") "data").length = labels.length := by
      rw [Datum.get_object, hx, itemsIn_of_get hlabels]
    have hpoints : ∀ v ∈ seriesOf (.object r), (itemsIn v "data").length = labels.length := by
      rw [seriesOf_of_shaped hall hs]
      intro v hv
      obtain ⟨members, points, rfl, -, hpoints, hlength⟩ := haligned v hv
      rw [itemsIn_of_get hpoints, hlength]
    rcases hkind with rfl | rfl
    · exact aligned_axisOf hf hsize hpoints
    · exact aligned_axisOf hf hsize hpoints
  | pie => exact aligned_pieOf hf
  | @radar radar first indicators rows _ hradar hindicators hs _ hrows haligned =>
    have hsize : (itemsIn ((Datum.object r).get "radar") "indicator").length =
        indicators.length := by
      rw [Datum.get_object, hradar, itemsIn_of_get hindicators]
    refine aligned_radarOf hf hsize ?_
    rw [seriesOf_of_shaped hall hs]
    intro v hv row hrow
    obtain rfl := Option.some.inj hv
    rw [itemsIn_of_get hrows] at hrow
    obtain ⟨values, hvalues, hlength⟩ := haligned row hrow
    rw [itemsIn, hvalues]
    exact hlength
  | scatter => exact aligned_scatterOf hf

/-- The figure of a chart in line with its labels is aligned. -/
theorem aligned_ofChart (h : Shaped r kind) (hf : ofChart (.object r) theme = .ok f) :
    f.content.Aligned := by
  unfold ofChart at hf
  rw [barePie?_of_shaped h] at hf
  split at hf
  · obtain rfl := Except.ok.inj hf
    exact aligned_placeholder _
  · dsimp only at hf
    split at hf
    · rename_i hdrawable
      exact aligned_drawn h hdrawable hf
    · obtain rfl := Except.ok.inj hf
      exact aligned_placeholder _

end Shaped

end ChartBoard.Figure
