import ChartBoard.Figure.OfChart
import ChartBoard.Proofs.Datum.Record

/-!
# Charts that are drawn

A chart of series that are objects is drawn as soon as one of them has points, unless it is a key
figure or marked as left empty.

* `linesOf` and `cloudsOf` are what all series of a chart come to; `axisOf_eq`, `radarOf_eq` and
  `scatterOf_eq` are the figures made of them.
* `seriesOf_of_objects` are the series of such a chart, `barePie?_of_objects` says that it is no
  bare list of numbers, `undrawn?_eq_none` that it is to be drawn.
* `ofChart_eq_drawn` puts the three together.
* `kindOf_of_type` and `kindOf_of_first` say by which kind it is drawn, `framed_congr` what its
  frame depends on.
-/

namespace ChartBoard.Figure

variable {chart : Datum} {r r' : Record} {series : List Datum} {theme : Theme}

theorem itemsIn_of_get {name : String} {items : List Datum}
    (h : Record.get r name = .list items) : itemsIn (.object r) name = items := by
  rw [itemsIn, Datum.get_object, h]
  rfl

/-! ## All series of a chart -/

/-- The lines that some series make of the lists under one of their members. -/
def linesOf (member : String) (series : List Datum) : Except Fault (List Line) :=
  series.zipIdx.mapM fun (serie, i) => lineOf member serie i

/-- The clouds that some series make of their points. -/
def cloudsOf (labels series : List Datum) : Except Fault (List Cloud) :=
  series.zipIdx.mapM fun (serie, i) => do
    let points ← (itemsIn serie "data").zipIdx.mapM fun (v, j) => pointOf labels j v
    return Cloud.mk (serieName serie i) points

theorem axisOf_eq (chart : Datum) (curved : Bool) (theme : Theme) :
    axisOf chart curved theme = (linesOf "data" (seriesOf chart) >>= fun lines =>
      pure (framed chart theme (if curved then .line else .bar)
        (.axis curved ((itemsIn (chart.get "xAxis") "data").map Datum.label) lines
          (axisTitle chart "xAxis") (axisTitle chart "yAxis")) false)) := rfl

theorem radarOf_eq (chart : Datum) (theme : Theme) :
    radarOf chart theme =
      (linesOf "value" ((((seriesOf chart).head?.map fun s => itemsIn s "data").getD []).filter
        Datum.isObject) >>= fun lines =>
      pure (framed chart theme .radar
        (.radar ((itemsIn (chart.get "radar") "indicator").map indicatorLabel) lines) false)) := rfl

theorem scatterOf_eq (chart : Datum) (theme : Theme) :
    scatterOf chart theme =
      (cloudsOf (itemsIn (chart.get "xAxis") "data") (seriesOf chart) >>= fun clouds =>
      pure (framed chart theme .scatter
        (.scatter clouds (axisTitle chart "xAxis") (axisTitle chart "yAxis")) false)) := rfl

section Objects

variable (hseries : Record.get r "series" = .list series)
  (hobjects : ∀ v ∈ series, v.isObject = true)

include hseries

theorem undrawn?_eq_none (hkpi : Record.get r "kpi" = .null)
    (hmark : Record.get r emptyMark = .null) : undrawn? (.object r) = none := by
  have hmembers : (Datum.object r).members.isEmpty = false := by
    cases r with
    | nil => cases hseries
    | cons => rfl
  rw [undrawn?, hmembers, Datum.get_object, Datum.get_object, hkpi, hmark]
  rfl

include hobjects

theorem seriesOf_of_objects : seriesOf (.object r) = series := by
  rw [seriesOf, Datum.get_object, hseries]
  exact List.filter_eq_self.mpr hobjects

theorem barePie?_of_objects : barePie? (.object r) = none := by
  unfold barePie?
  rw [Datum.get_object, hseries]
  cases series with
  | nil => rfl
  | cons v rest =>
    have hv := hobjects v List.mem_cons_self
    cases v with
    | object members => exact if_neg (by simp [Datum.isNumber])
    | _ => cases hv

theorem ofChart_eq_drawn (hkpi : Record.get r "kpi" = .null)
    (hmark : Record.get r emptyMark = .null) (hdrawable : Chart.isDrawable (.object r) = true) :
    ofChart (.object r) theme = drawn (.object r) theme := by
  rw [ofChart, undrawn?_eq_none hseries hkpi hmark, barePie?_of_objects hseries hobjects]
  exact if_pos hdrawable

end Objects

theorem kindOf_of_type {first : Datum} {rest : List Datum} {name : String}
    (hname : name ∈ ["bar", "line", "pie", "radar", "scatter"])
    (hseries : seriesOf chart = first :: rest) (htype : first.get "type" = .text name) :
    kindOf chart = .ofName name := by
  have hlower : ∀ name ∈ ["bar", "line", "pie", "radar", "scatter"],
      Text.lower name = name ∧ name.isEmpty = false := by
    decide
  have hlabel : (Datum.text name).label = name := rfl
  simp only [kindOf, hseries, List.head?_cons, Option.map_some, Option.getD_some, htype, hlabel,
    hlower name hname, Bool.false_eq_true, if_false]

/-- A chart that names no kind itself is drawn by the kind of its first series. -/
theorem kindOf_of_first {first : Datum} {rest : List Datum} {kind : String}
    (hseries : seriesOf chart = first :: rest) (htype : first.get "type" = .text kind)
    (hchart : chart.get "chart" = .null) : kindOf chart = .ofName (Text.lower kind) := by
  have hlabel : (Datum.text kind).label = kind := rfl
  have hwhole : chartType chart = "" := by
    rw [chartType, hchart]
    rfl
  simp only [kindOf, hseries, List.head?_cons, Option.map_some, Option.getD_some, htype, hlabel,
    hwhole]
  split
  · rename_i hempty
    rw [String.isEmpty_iff.mp hempty]
  · rfl

/-- The frame of a figure shows the title, the colours, the style and the legend of its chart. -/
theorem framed_congr (htitle : Record.get r' "title" = Record.get r "title")
    (hcolor : Record.get r' "color" = Record.get r "color")
    (hstyle : Record.get r' "style" = Record.get r "style")
    (hlegend : Record.get r' "legend" = Record.get r "legend") (kind : Kind) (content : Content)
    (fallback : Bool) : framed (.object r') theme kind content fallback =
      framed (.object r) theme kind content fallback := by
  simp only [framed, titleOf, colorsOf, lookOf, Datum.get_object, htitle, hcolor, hstyle, hlegend]

end ChartBoard.Figure
