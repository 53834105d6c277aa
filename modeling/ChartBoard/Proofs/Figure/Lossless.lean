import ChartBoard.Figure.Variant
import ChartBoard.Proofs.Chart.Described
import ChartBoard.Proofs.Chart.Readable
import ChartBoard.Proofs.Figure.Usable

/-!
# Figures that show what was specified

A figure is drawn from the description of a chart.  That loses nothing of the specification which
the description is of: the labels, the names and the numbers of the figure are those of the plot.

* `Content.ofPlot` and `Variant.ofPlot` are what a plot shows, without a description between.
* `ofChart_described` is the figure of a description.
* `lossless` says it of every chart that is made of rows and has something to draw.
-/

namespace ChartBoard.Figure

open Chart (Amount Describes IsOf Plot Request Spec isDrawable renamedSeries shownName)
open Result

/-! ## What a plot shows -/

/-- The numbers of a series. -/
def Line.ofSeries (names : Record) (s : Chart.Series) : Line :=
  ⟨shownName names s.name, s.amounts.map fun a => some a.toFloat⟩

/-- The numbers of a shape. -/
def Line.ofShape (shape : String × List Float) : Line := ⟨shape.1, shape.2.map some⟩

/-- The points of a series of points. -/
def Cloud.ofPoints (names : Record) (cloud : String × List (Float × Float)) : Cloud :=
  ⟨shownName names (.text cloud.1), cloud.2.map fun point => ⟨.at point.1, point.2⟩⟩

/-- What a plot shows when its series have new names. -/
def Content.ofPlot (names : Record) : Plot → Content
  | .axis kind categories xName yName series =>
    .axis (kind == "line") categories (series.map (Line.ofSeries names)) xName.label yName.label
  | .pie _ slices => .pie (slices.map (·.name)) (slices.map fun s => some s.amount.toFloat)
  | .radar indicators shapes => .radar indicators (shapes.map Line.ofShape)
  | .scatter xName yName clouds =>
    .scatter (clouds.map (Cloud.ofPoints names)) xName.label yName.label

/-- The variant that a plot is, when its series have new names. -/
def Variant.ofPlot (title : String) (names : Record) : Plot → Variant
  | .axis kind categories xName yName series =>
    .axis (kind == "line") title categories
      (series.map fun s => (shownName names s.name, s.amounts.map Amount.toFloat))
      xName.label yName.label
  | .pie _ slices => .pie title (slices.map fun s => (s.name, s.amount.toFloat))
  | .radar indicators shapes => .radar title indicators shapes
  | .scatter _ _ clouds => .scatter title (clouds.map (Cloud.ofPoints names))

theorem ofFigure_eq_ofPlot {f : Figure} {title : String} {names : Record} {plot : Plot}
    (htitle : f.title = .text title) (hcontent : f.content = .ofPlot names plot) :
    Variant.ofFigure f = .ofPlot title names plot := by
  have htext : f.title.label = title := by rw [htitle]; rfl
  unfold Variant.ofFigure
  rw [hcontent, htext]
  cases plot with
  | axis => simp [Content.ofPlot, Variant.ofPlot, Line.named, Line.ofSeries, Function.comp_def,
      Amount.toFloat]
  | pie => simp [Content.ofPlot, Variant.ofPlot, Function.comp_def, Amount.toFloat, List.zip_map']
  | radar => simp [Content.ofPlot, Variant.ofPlot, Line.named, Line.ofShape, Function.comp_def,
      Amount.toFloat]
  | scatter => simp [Content.ofPlot, Variant.ofPlot]

/-! ## Described series -/

variable {spec : Spec} {names chart : Record} {theme : Theme}

theorem itemsIn_renamedSeries (v : Datum) :
    itemsIn (renamedSeries names v) "data" = itemsIn v "data" := by
  rw [itemsIn, Chart.get_renamedSeries_of_ne v (by simp), itemsIn]

/-- A name that is not empty needs no number. -/
theorem serieName_of_label {serie : Datum} {name : String}
    (hlabel : (serie.get "name").label = name) (hname : name ≠ "") (position : Nat) :
    serieName serie position = name := by
  rw [serieName, Chart.nameOrNumber, hlabel, if_neg (by simpa using hname)]

theorem isObject_described (names : Record) (plot : Plot) :
    ∀ v ∈ plot.described.2.map (renamedSeries names), v.isObject = true :=
  List.forall_mem_map.mpr fun v hv => by
    rw [Chart.isObject_renamedSeries, isObject_of_isOf (Chart.isOf_of_mem_described plot) v hv]

theorem seriesOf_described (h : Describes spec names chart) :
    seriesOf (.object chart) = spec.plot.described.2.map (renamedSeries names) :=
  seriesOf_of_objects h.get_series (isObject_described names spec.plot)

theorem itemsIn_toDatum (s : Chart.Series) (kind : String) :
    itemsIn (s.toDatum kind) "data" = s.amounts.map Amount.toDatum := by
  simp [itemsIn, Chart.Series.toDatum, Datum.asList?]

theorem itemsIn_pieSerie (name : Datum) (slices : List Chart.Slice) :
    itemsIn (Chart.pieSerie name slices) "data" = slices.map Chart.Slice.toDatum := by
  simp [itemsIn, Chart.pieSerie, Datum.asList?]

theorem itemsIn_radarSerie (shapes : List (String × List Float)) :
    itemsIn (Chart.radarSerie shapes) "data" = shapes.map Chart.shapeDatum := by
  simp [itemsIn, Chart.radarSerie, Datum.asList?]

theorem itemsIn_cloudDatum (cloud : String × List (Float × Float)) :
    itemsIn (Chart.cloudDatum cloud) "data" =
      cloud.2.map fun point => .list [.float point.1, .float point.2] := by
  simp [itemsIn, Chart.cloudDatum, Datum.asList?]

/-- A description can be drawn when its plot has a point. -/
theorem isDrawable_described (h : Describes spec names chart) :
    isDrawable (.object chart) = true ↔ spec.plot.HasPoint := by
  have hitems (v : Datum) : itemsIn (renamedSeries names v) "data" = itemsIn v "data" :=
    itemsIn_renamedSeries v
  rw [isDrawable_iff, seriesOf_described h]
  simp only [List.mem_map, exists_exists_and_eq_and, hitems]
  cases spec.plot with
  | axis => simp [Plot.described, Plot.HasPoint, itemsIn_toDatum]
  | pie => simp [Plot.described, Plot.HasPoint, itemsIn_pieSerie]
  | radar => simp [Plot.described, Plot.HasPoint, itemsIn_radarSerie]
  | scatter => simp [Plot.described, Plot.HasPoint, itemsIn_cloudDatum]

theorem get_kpi_described (h : Describes spec names chart) : Record.get chart "kpi" = .null :=
  h.get_of_not_mem (by simp)

theorem get_emptyMark_described (h : Describes spec names chart) :
    Record.get chart emptyMark = .null :=
  h.get_of_not_mem (by simp [emptyMark])

theorem get_chart_described (h : Describes spec names chart) : Record.get chart "chart" = .null :=
  h.get_of_not_mem (by simp)

theorem ofChart_described (h : Describes spec names chart) (hpoint : spec.plot.HasPoint)
    (theme : Theme) : ofChart (.object chart) theme = drawn (.object chart) theme :=
  ofChart_eq_drawn h.get_series (isObject_described names spec.plot) (get_kpi_described h)
    (get_emptyMark_described h) ((isDrawable_described h).mpr hpoint)

theorem described_ne_nil {plot : Plot} (h : plot.HasPoint) : plot.described.2 ≠ [] := by
  cases plot with
  | axis =>
    obtain ⟨s, hs, -⟩ := h
    exact List.ne_nil_of_mem (List.mem_map_of_mem hs)
  | pie => exact List.cons_ne_nil _ _
  | radar => exact List.cons_ne_nil _ _
  | scatter =>
    obtain ⟨cloud, hcloud, -⟩ := h
    exact List.ne_nil_of_mem (List.mem_map_of_mem hcloud)

theorem get_type_renamed {v : Datum} {kind : String} (hv : IsOf kind v) :
    (renamedSeries names v).get "type" = .text kind := by
  obtain ⟨members, rfl, htype⟩ := hv
  rw [Chart.get_renamedSeries_of_ne _ (by simp), Datum.get_object, htype]

theorem kindOf_described (h : Describes spec names chart) (hpoint : spec.plot.HasPoint) :
    kindOf (.object chart) = .ofName (Text.lower spec.plot.described.1) := by
  have hlisted := seriesOf_described h
  have hof := Chart.isOf_of_mem_described spec.plot
  obtain ⟨first, rest, hseries⟩ := List.exists_cons_of_ne_nil (described_ne_nil hpoint)
  rw [hseries] at hlisted hof
  exact kindOf_of_first hlisted (get_type_renamed (hof first List.mem_cons_self))
    (get_chart_described h)

/-! ## Plots by kind -/

section Plots

variable {title : Datum}

theorem numbersOf_floats {xs : List Float} (h : ∀ x ∈ xs, finite? x = some x) :
    numbersOf (xs.map .float) = .ok xs := by
  rw [numbersOf, List.mapM_map]
  exact (mapM_eq_map (g := id) fun x hx => Datum.number_float (h x hx)).trans (by rw [List.map_id])

theorem numbersOf_amounts {amounts : List Amount} (h : ∀ a ∈ amounts, a.IsFinite) :
    numbersOf (amounts.map Amount.toDatum) = .ok (amounts.map Amount.toFloat) := by
  rw [numbersOf, List.mapM_map]
  exact mapM_eq_map fun a ha => Amount.number_toDatum (h a ha)

theorem lineOf_eq {member name : String} {serie : Datum} {xs : List Float}
    (hlabel : (serie.get "name").label = name) (hname : name ≠ "")
    (hnumbers : numbersOf (itemsIn serie member) = .ok xs) (position : Nat) :
    lineOf member serie position = .ok ⟨name, xs.map some⟩ := by
  rw [lineOf, hnumbers, serieName_of_label hlabel hname]
  rfl

theorem lineOf_toDatum {s : Chart.Series} (hname : s.name.label ≠ "")
    (hfinite : ∀ a ∈ s.amounts, a.IsFinite) (kind : String) (position : Nat) :
    lineOf "data" (renamedSeries names (s.toDatum kind)) position =
      .ok (Line.ofSeries names s) := by
  have hlabel : ((renamedSeries names (s.toDatum kind)).get "name").label =
      shownName names s.name := by
    rw [Chart.label_name_renamedSeries rfl, Chart.get_name_toDatum]
  have hnumbers : numbersOf (itemsIn (renamedSeries names (s.toDatum kind)) "data") =
      .ok (s.amounts.map Amount.toFloat) := by
    rw [itemsIn_renamedSeries, itemsIn_toDatum, numbersOf_amounts hfinite]
  rw [lineOf_eq hlabel (Chart.shownName_ne_empty hname) hnumbers, List.map_map]
  rfl

theorem axisTitle_described (h : Describes spec names chart) {axis : String} {members : Record}
    (hname : axis ∉ Chart.finishedMembers)
    (haxis : Record.get spec.toRecord axis = .object members) :
    axisTitle (.object chart) axis = (Record.get members "name").label := by
  have hget : (Datum.object chart).get axis = .object members := (h.get hname).trans haxis
  rw [axisTitle, hget, Datum.get_object]

section Axis

variable {kind : String} {categories : List String} {xName yName : Datum}
  {series : List Chart.Series}

theorem axisOf_described
    (h : Describes ⟨title, .axis kind categories xName yName series⟩ names chart)
    (hread : Plot.Readable (.axis kind categories xName yName series)) (curved : Bool) :
    axisOf (.object chart) curved theme =
      .ok (framed (.object chart) theme (if curved then .line else .bar) (.axis curved categories
        (series.map (Line.ofSeries names)) xName.label yName.label) false) := by
  have hx : Record.get (Spec.toRecord ⟨title, .axis kind categories xName yName series⟩)
      "xAxis" = .object [("type", .text "category"), ("data", .texts categories),
        ("name", xName)] := by
    simp [Spec.toRecord, Plot.toRecord]
  have hy : Record.get (Spec.toRecord ⟨title, .axis kind categories xName yName series⟩)
      "yAxis" = .object [("type", .text "value"), ("name", yName)] := by
    simp [Spec.toRecord, Plot.toRecord]
  have hxName : axisTitle (.object chart) "xAxis" = xName.label := by
    rw [axisTitle_described h (by simp) hx]
    simp
  have hyName : axisTitle (.object chart) "yAxis" = yName.label := by
    rw [axisTitle_described h (by simp) hy]
    simp
  have hlines : linesOf "data" (seriesOf (.object chart)) =
      .ok (series.map (Line.ofSeries names)) := by
    rw [linesOf, seriesOf_described h, Plot.described, List.map_map]
    exact mapM_zipIdx_map_eq_map fun s hs i => lineOf_toDatum (hread s hs).1 (hread s hs).2 kind i
  have hcategories : (itemsIn ((Datum.object chart).get "xAxis") "data").map Datum.label =
      categories := by
    have hlabel : ∀ s : String, (Datum.text s).label = s := fun _ => rfl
    have hget : Record.get chart "xAxis" = _ := (h.get (by simp)).trans hx
    rw [Datum.get_object, hget]
    simp [itemsIn, Datum.texts, Datum.asList?, Function.comp_def, hlabel]
  rw [axisOf_eq, hlines, hcategories, hxName, hyName]
  rfl

end Axis

section Pie

variable {name : Datum} {slices : List Chart.Slice}

/-- A series of slices makes a pie of them. -/
theorem pieOf_of_slices (theme : Theme) {chart : Datum} {xs : List Float}
    (hitems : firstItems chart = slices.map Chart.Slice.toDatum) (hne : slices ≠ [])
    (hnumbers : numbersOf (slices.map (·.amount.toDatum)) = .ok xs) :
    pieOf chart theme =
      .ok (framed chart theme .pie (.pie (slices.map (·.name)) (xs.map some)) false) := by
  have hvalues : (slices.map Chart.Slice.toDatum).map (·.get "value") =
      slices.map (·.amount.toDatum) := by
    simp [Chart.Slice.toDatum]
  have hlabels : (slices.map Chart.Slice.toDatum).map (fun v => (v.get "name").label) =
      slices.map (·.name) := by
    have hlabel : ∀ s : String, (Datum.text s).label = s := fun _ => rfl
    simp [Chart.Slice.toDatum, hlabel]
  obtain ⟨s, rest, rfl⟩ := List.exists_cons_of_ne_nil hne
  have hcons : (s :: rest).map Chart.Slice.toDatum =
      .object [("name", .text s.name), ("value", s.amount.toDatum)] ::
        rest.map Chart.Slice.toDatum := rfl
  unfold firstItems at hitems
  unfold pieOf
  dsimp only
  rw [hcons] at hitems hvalues hlabels
  rw [hitems]
  dsimp only
  rw [hvalues, hnumbers, hlabels]
  rfl

theorem firstItems_pie (h : Describes ⟨title, .pie name slices⟩ names chart) :
    firstItems (.object chart) = slices.map Chart.Slice.toDatum := by
  rw [firstItems, seriesOf_described h, ← itemsIn_pieSerie name]
  exact itemsIn_renamedSeries _

theorem pieOf_described (h : Describes ⟨title, .pie name slices⟩ names chart)
    (hread : Plot.Readable (.pie name slices)) (hpoint : Plot.HasPoint (.pie name slices)) :
    pieOf (.object chart) theme = .ok (framed (.object chart) theme .pie
      (.pie (slices.map (·.name)) (slices.map fun s => some s.amount.toFloat)) false) := by
  have hnumbers : numbersOf (slices.map (·.amount.toDatum)) =
      .ok (slices.map (·.amount.toFloat)) := by
    rw [numbersOf, List.mapM_map]
    exact mapM_eq_map fun s hs => Amount.number_toDatum (hread s hs)
  rw [pieOf_of_slices theme (firstItems_pie h) hpoint hnumbers, List.map_map]
  rfl

end Pie

section Radar

variable {indicators : List String} {shapes : List (String × List Float)}

theorem lineOf_shapeDatum {shape : String × List Float} (hname : shape.1 ≠ "")
    (hfinite : ∀ x ∈ shape.2, finite? x = some x) (position : Nat) :
    lineOf "value" (Chart.shapeDatum shape) position = .ok (Line.ofShape shape) := by
  have hlabel : ((Chart.shapeDatum shape).get "name").label = shape.1 := by
    simp [Chart.shapeDatum]
    rfl
  have hitems : itemsIn (Chart.shapeDatum shape) "value" = shape.2.map .float := by
    simp [itemsIn, Chart.shapeDatum, Datum.asList?]
  rw [lineOf_eq hlabel hname (by rw [hitems, numbersOf_floats hfinite])]
  rfl

theorem radarOf_described (h : Describes ⟨title, .radar indicators shapes⟩ names chart)
    (hread : Plot.Readable (.radar indicators shapes)) :
    radarOf (.object chart) theme = .ok (framed (.object chart) theme .radar
      (.radar indicators (shapes.map Line.ofShape)) false) := by
  have hitems : firstItems (.object chart) = shapes.map Chart.shapeDatum := by
    rw [firstItems, seriesOf_described h, ← itemsIn_radarSerie]
    exact itemsIn_renamedSeries _
  have hlabels : (itemsIn ((Datum.object chart).get "radar") "indicator").map indicatorLabel =
      indicators := by
    have hlabel : ∀ s : String, indicatorLabel (.object [("name", .text s)]) = s := fun s => by
      simp [indicatorLabel]
      rfl
    have hradar : Record.get (Spec.toRecord ⟨title, .radar indicators shapes⟩) "radar" =
        .object [("indicator", .list (indicators.map fun s => .object [("name", .text s)]))] := by
      simp [Spec.toRecord, Plot.toRecord]
    have hget : Record.get chart "radar" = _ := (h.get (by simp)).trans hradar
    rw [Datum.get_object, hget]
    simp [itemsIn, Datum.asList?, Function.comp_def, hlabel]
  have hrows : (shapes.map Chart.shapeDatum).filter Datum.isObject = shapes.map Chart.shapeDatum :=
    List.filter_eq_self.mpr (List.forall_mem_map.mpr fun _ _ => rfl)
  have hlines : linesOf "value" (shapes.map Chart.shapeDatum) = .ok (shapes.map Line.ofShape) :=
    mapM_zipIdx_map_eq_map fun shape hshape i =>
      lineOf_shapeDatum (hread shape hshape).1 (hread shape hshape).2 i
  unfold firstItems at hitems
  rw [radarOf_eq, hitems, hrows, hlabels, hlines]
  rfl

end Radar

section Scatter

variable {xName yName : Datum} {clouds : List (String × List (Float × Float))}

theorem label_cloudDatum (names : Record) (cloud : String × List (Float × Float)) :
    ((renamedSeries names (Chart.cloudDatum cloud)).get "name").label =
      shownName names (.text cloud.1) := by
  rw [Chart.label_name_renamedSeries rfl]
  simp [Chart.cloudDatum]

theorem points_cloudDatum {cloud : String × List (Float × Float)} {labels : List Datum}
    (h : ∀ point ∈ cloud.2, finite? point.1 = some point.1 ∧ finite? point.2 = some point.2) :
    (itemsIn (Chart.cloudDatum cloud) "data").zipIdx.mapM (fun (v, j) => pointOf labels j v) =
      .ok (cloud.2.map fun point => ⟨.at point.1, point.2⟩) := by
  rw [itemsIn_cloudDatum]
  refine mapM_zipIdx_map_eq_map fun point hpoint i => ?_
  simp only [pointOf, List.getD_cons_zero, List.getD_cons_succ]
  rw [Datum.number_float (h point hpoint).1, Datum.number_float (h point hpoint).2]
  rfl

theorem scatterOf_described (h : Describes ⟨title, .scatter xName yName clouds⟩ names chart)
    (hread : Plot.Readable (.scatter xName yName clouds)) :
    scatterOf (.object chart) theme = .ok (framed (.object chart) theme .scatter
      (.scatter (clouds.map (Cloud.ofPoints names)) xName.label yName.label) false) := by
  have hx : Record.get (Spec.toRecord ⟨title, .scatter xName yName clouds⟩)
      "xAxis" = .object [("type", .text "value"), ("name", xName)] := by
    simp [Spec.toRecord, Plot.toRecord]
  have hy : Record.get (Spec.toRecord ⟨title, .scatter xName yName clouds⟩)
      "yAxis" = .object [("type", .text "value"), ("name", yName)] := by
    simp [Spec.toRecord, Plot.toRecord]
  have hxName : axisTitle (.object chart) "xAxis" = xName.label := by
    rw [axisTitle_described h (by simp) hx]
    simp
  have hyName : axisTitle (.object chart) "yAxis" = yName.label := by
    rw [axisTitle_described h (by simp) hy]
    simp
  have hclouds (labels : List Datum) : cloudsOf labels (seriesOf (.object chart)) =
      .ok (clouds.map (Cloud.ofPoints names)) := by
    rw [cloudsOf, seriesOf_described h, Plot.described, List.map_map]
    refine mapM_zipIdx_map_eq_map fun cloud hcloud i => ?_
    have hname : (Datum.text cloud.1).label ≠ "" := (hread cloud hcloud).1
    dsimp only [Function.comp_apply]
    rw [itemsIn_renamedSeries, points_cloudDatum (hread cloud hcloud).2,
      serieName_of_label (label_cloudDatum names cloud) (Chart.shownName_ne_empty hname)]
    rfl
  rw [scatterOf_eq, hclouds, hxName, hyName]
  rfl

end Scatter

end Plots

/-- Of a described chart there is a figure that shows the plot. -/
def Shows (names : Record) (chart : Datum) (theme : Theme) (plot : Plot) : Prop :=
  ∃ kind, ofChart chart theme = .ok (framed chart theme kind (.ofPlot names plot) false)

/-- The description of a readable plot with points is drawn as the plot. -/
theorem shows_described {kind : String} (hkind : kind ∈ ["bar", "line", "pie", "radar", "scatter"])
    (hsuits : spec.plot.Suits kind) (hread : spec.plot.Readable) (hpoint : spec.plot.HasPoint)
    (h : Describes spec names chart) (theme : Theme) :
    Shows names (.object chart) theme spec.plot := by
  have hdrawn := ofChart_described h hpoint theme
  have hkindOf := kindOf_described h hpoint
  have hlower : ∀ name ∈ ["bar", "line", "pie", "radar", "scatter"], Text.lower name = name := by
    decide
  unfold drawn at hdrawn
  rw [hkindOf] at hdrawn
  obtain ⟨title, plot⟩ := spec
  cases hsuits with
  | axis hpie hradar hscatter =>
    have hbars : kind = "bar" ∨ kind = "line" := by
      simpa [hpie, hradar, hscatter] using hkind
    dsimp only [Plot.described] at hdrawn
    rw [hlower kind hkind] at hdrawn
    rcases hbars with rfl | rfl
    · exact ⟨.bar, hdrawn.trans (axisOf_described h hread false)⟩
    · exact ⟨.line, hdrawn.trans (axisOf_described h hread true)⟩
  | pie =>
    dsimp only [Plot.described] at hdrawn
    rw [hlower "pie" (by decide)] at hdrawn
    exact ⟨.pie, hdrawn.trans (pieOf_described h hread hpoint)⟩
  | radar =>
    dsimp only [Plot.described] at hdrawn
    rw [hlower "radar" (by decide)] at hdrawn
    exact ⟨.radar, hdrawn.trans (radarOf_described h hread)⟩
  | scatter =>
    dsimp only [Plot.described] at hdrawn
    rw [hlower "scatter" (by decide)] at hdrawn
    exact ⟨.scatter, hdrawn.trans (scatterOf_described h hread)⟩

/-! ## Charts made of rows -/

theorem kindName_ofPlot {plot : Plot} {kind : String} (h : plot.Suits kind)
    (hkind : kind ∈ ["bar", "line", "pie", "radar", "scatter"]) :
    (Content.ofPlot names plot).kindName = kind := by
  cases h with
  | axis hpie hradar hscatter =>
    have hbars : kind = "bar" ∨ kind = "line" := by
      simpa [hpie, hradar, hscatter] using hkind
    rcases hbars with rfl | rfl <;> rfl
  | pie hpie => exact hpie.symm
  | radar hradar => exact hradar.symm
  | scatter hscatter => exact hscatter.symm

theorem titleOf_described (h : Describes spec names chart) :
    titleOf (.object chart) = spec.title.label := by
  rw [titleOf, Datum.get_object, h.get_title, Chart.titleDatum]
  simp

/-- The figure of a chart that is made of rows is no fallback, is of the kind that was asked for
and shows what was specified; so does the variant of the chart. -/
theorem lossless {q : Request} {rows : List Record}
    (hkind : q.kind ∈ ["bar", "line", "pie", "radar", "scatter"]) (hdata : q.HasData rows)
    (hspec : q.spec rows = .ok spec) (h : Describes spec names chart) (theme : Theme) :
    (∃ f, ofChart (.object chart) theme = .ok f ∧ f.fallback = false ∧
        f.content.kindName = q.kind ∧ f.content = .ofPlot names spec.plot ∧
        f.title = .text spec.title.label) ∧
      Variant.ofChart? (.object chart) =
        .ok (some (.ofPlot spec.title.label names spec.plot)) := by
  have hplot := Request.plot_of_spec hspec
  have hsuits := Request.suits_plot hplot
  have hshows := shows_described hkind hsuits (Request.readable_plot hdata hplot)
    (Request.hasPoint_plot hkind hdata hplot) h
  have htitle := titleOf_described h
  constructor
  · obtain ⟨kind, hf⟩ := hshows theme
    exact ⟨_, hf, rfl, kindName_ofPlot hsuits hkind, rfl, congrArg Datum.text htitle⟩
  · obtain ⟨kind, hf⟩ := hshows {}
    have hkpi : (Datum.object chart).get "kpi" = .null := get_kpi_described h
    have hvariant := ofFigure_eq_ofPlot (f := framed (.object chart) {} kind
      (.ofPlot names spec.plot) false) (congrArg Datum.text htitle) rfl
    rw [Variant.ofChart?, hkpi, ← hvariant]
    dsimp only
    rw [hf]
    rfl

/-- Totals of cities with a line for each year. -/
def totals : Request :=
  { kind := "line", xField := "city", yFields := ["total"], seriesBy := some "year",
    titles := { chart := .text "Totals" } }

/-- Two cities, each with a total of another year. -/
def totalsRows : List Record :=
  [[("city", .text "Rome"), ("year", .text "2023"), ("total", .float 2.0)],
   [("city", .text "Oslo"), ("year", .text "2024"), ("total", .float 3.0)]]

/-- The totals by year, each with an empty amount for the other city. -/
def totalsSpec : Spec :=
  ⟨.text "Totals", .axis "line" ["Rome", "Oslo"] (.text "city") (.text "Values")
    [⟨.text "2023", [some 2.0, none]⟩, ⟨.text "2024", [none, some 3.0]⟩]⟩

theorem hasData_totals : totals.HasData totalsRows where
  rows_ne_nil := by simp [totalsRows]
  yFields_ne_nil := by simp [totals]
  ne_empty_of_mem := by simp [totals]
  splits _ field hfield := by
    obtain rfl := Option.some.inj hfield
    exact ⟨_, List.mem_cons_self, by decide⟩
  sums hpie := by
    simp [totals] at hpie

theorem lossless_totals : totals.spec totalsRows = .ok totalsSpec ∧
    ∃ chart f, Chart.finished .usual none [] [("2023", .text "Before")] .null totalsSpec.toRecord =
        .ok chart ∧ ofChart (.object chart) {} = .ok f ∧
      f.fallback = false ∧ f.content.kindName = "line" ∧
        f.content = .ofPlot [("2023", .text "Before")] totalsSpec.plot := by
  have hspec : totals.spec totalsRows = .ok totalsSpec := by
    unfold totals totalsRows totalsSpec
    rfl
  have hfinished : Chart.finished .usual none [] [("2023", .text "Before")] .null
      totalsSpec.toRecord = .ok _ := Chart.finished_eq_ok.mpr ⟨by decide, rfl⟩
  obtain ⟨⟨f, hf, hshown, hkind, hcontent, -⟩, -⟩ := lossless (by decide) hasData_totals hspec
    (.finished hfinished) {}
  exact ⟨hspec, _, f, hfinished, hf, hshown, hkind, hcontent⟩

end ChartBoard.Figure
