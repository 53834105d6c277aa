import ChartBoard.Proofs.Figure.Kept
import ChartBoard.Proofs.Figure.Total

/-!
# Figures of labels with datasets

A chart may be given as labels with datasets in place of series under an X axis.  Both forms are
brought to the same series by different ways, and both come to the same figure.

* `IsPlain` is what both forms come to: series of one kind under the labels of an X axis, which
  `figureOf_of_isPlain` draws.
* `nativeChart` is a chart of labels with datasets in the form with series.
* `figureOf_datasets` says what figure both forms have, and that they differ at most in the title:
  labels with datasets get one when they have none, as in `not_figureOf_native`.
-/

namespace ChartBoard.Figure

open Chart (axisLabels? carriesLabels isDrawable keptChart keptSerie nameOrNumber serieKind)
open Datum Result

variable {raw chart : Record} {series : List Datum} {theme : Theme} {kind : String}

/-! ## Charts of plain series -/

/-- A kind that is drawn over axes. -/
def IsAxisKind (kind : String) : Prop := kind ≠ "pie" ∧ kind ≠ "radar" ∧ kind ≠ "scatter"

instance (kind : String) : Decidable (IsAxisKind kind) := inferInstanceAs (Decidable (_ ∧ _ ∧ _))

theorem drawn_of_isAxisKind {chart : Datum} (hkind : IsAxisKind kind)
    (h : kindOf chart = .ofName kind) (theme : Theme) :
    drawn chart theme = axisOf chart (kind == "line") theme := by
  obtain ⟨hpie, hradar, hscatter⟩ := hkind
  have hname : Kind.ofName kind = if kind == "line" then .line else .bar := by
    simp [Kind.ofName, hpie, hradar, hscatter]
  unfold drawn
  rw [h, hname]
  cases kind == "line" <;> rfl

/-- A chart of series of one kind under an X axis with labels, whose points carry no labels of their
own. -/
structure IsPlain (chart : Record) (kind : String) (labels : List String) (series : List Datum) :
    Prop where
  get_series : Record.get chart "series" = .list series
  objects : ∀ v ∈ series, v.isObject = true
  labels : axisLabels? (Record.get chart "xAxis") = some labels
  get_kpi : Record.get chart "kpi" = .null
  get_mark : Record.get chart emptyMark = .null
  get_chart : Record.get chart "chart" = .null
  axisKind : IsAxisKind kind
  kinds : ∀ v ∈ series, serieKind chart v.members = kind
  plain : ∀ v ∈ series, carriesLabels (itemsIn v "data") = false
  points : ∃ v ∈ series, itemsIn v "data" ≠ []

/-- What is drawn over the axes of a chart. -/
def axisFigure (chart : Record) (kind : String) (labels : List String) (lines : List Line)
    (theme : Theme) : Figure :=
  framed (.object chart) theme (if kind == "line" then .line else .bar)
    (.axis (kind == "line") labels lines (axisTitle (.object chart) "xAxis")
      (axisTitle (.object chart) "yAxis")) false

section IsPlain

variable {labels : List String} (h : IsPlain chart kind labels series)

include h

theorem IsPlain.keepsPoints : ∀ v ∈ series, Chart.KeepsPoints chart v := fun v hv =>
  .others (.inr ⟨h.plain v hv, fun hpie => absurd ((h.kinds v hv).symm.trans hpie) h.axisKind.1⟩)

theorem IsPlain.isDrawable : isDrawable (.object chart) = true := by
  rw [isDrawable_iff, seriesOf_of_objects h.get_series h.objects]
  exact h.points

theorem IsPlain.kindOf_keptChart : kindOf (.object (keptChart chart series)) = .ofName kind := by
  obtain ⟨v, hv, -⟩ := h.points
  obtain ⟨first, rest, hcons⟩ := List.exists_cons_of_ne_nil (List.ne_nil_of_mem hv)
  have hlisted : seriesOf (.object (keptChart chart series)) =
      keptSerie chart first 0 :: (rest.zipIdx 1).map fun p => keptSerie chart p.1 p.2 := by
    rw [seriesOf_keptChart, hcons]
    rfl
  have hfirst : serieKind chart first.members = kind := h.kinds first (by simp [hcons])
  have hlower : Text.lower kind = kind := by
    rw [← hfirst]
    exact Text.lower_lower _
  rw [kindOf_of_first hlisted (by rw [Chart.get_type_keptSerie, hfirst])
    ((Chart.get_keptChart_of_ne (by decide)).trans h.get_chart), hlower]

theorem IsPlain.ofChart_keptChart (theme : Theme) :
    ofChart (.object (keptChart chart series)) theme =
      (linesOf "data" series).map fun lines => axisFigure chart kind labels lines theme := by
  have hkept : Record.get (keptChart chart series) "series" =
      .list (series.zipIdx.map fun p => keptSerie chart p.1 p.2) := by
    simp [keptChart]
  have hcategories : (itemsIn ((Datum.object chart).get "xAxis") "data").map Datum.label =
      labels := by
    obtain ⟨items, hitems, hmap⟩ := Option.map_eq_some_iff.mp h.labels
    rw [itemsIn, get_object, hitems, ← hmap]
    rfl
  rw [ofChart_eq_drawn hkept (List.forall_mem_map.mpr fun _ _ => rfl)
      ((Chart.get_keptChart_of_ne (by decide)).trans h.get_kpi)
      ((Chart.get_keptChart_of_ne (by decide)).trans h.get_mark)
      ((Chart.isDrawable_keptChart h.get_series).trans h.isDrawable),
    drawn_of_isAxisKind h.axisKind h.kindOf_keptChart, axisOf_keptChart h.get_series h.objects,
    axisOf_eq, seriesOf_of_objects h.get_series h.objects, hcategories]
  cases linesOf "data" series <;> rfl

end IsPlain

/-! ## Both forms -/

/-- The figure of a chart once it is repaired. -/
def figureOf (settings : Settings) (raw rows : Datum) (theme : Theme) : Except Fault Figure := do
  let chart ← Chart.repaired settings raw rows
  ofChart ((chart.map .object).getD .null) theme

/-- The kind of a chart of labels with datasets. -/
def datasetKind (raw : Record) : String :=
  Text.lower ((Record.get raw "type").orElse (.text "bar")).label

/-- The numbers of a dataset under its name. -/
def lineOfDataset (dataset : Datum) (position : Nat) : Except Fault Line := do
  return ⟨nameOrNumber (dataset.get "label") "Series" position,
    (← numbersOf (itemsIn dataset "data")).map some⟩

/-- The series that stands for a dataset in the other form. -/
def nativeSerie (kind dataset : Datum) : Datum :=
  .object [("type", kind), ("name", dataset.get "label"), ("data", dataset.get "data")]

/-- A chart of labels with datasets in the form with series. -/
def nativeChart (raw : Record) (labels datasets : List Datum) : Record :=
  [("title", Record.get raw "title"), ("xAxis", .object [("data", .list labels)]),
   ("yAxis", .object [("name", .text "Values")]),
   ("series", .list (datasets.map (nativeSerie (Record.get raw "type"))))]

/-- A chart of labels with datasets that is drawn over axes: one dataset has values, and none has
an object as its first. -/
structure OfDatasets (raw : Record) (labels datasets : List Datum) : Prop where
  not_kpi : (Record.get raw "kpi").isObject = false
  get_labels : (Record.get raw "data").get "labels" = .list labels
  get_datasets : (Record.get raw "data").get "datasets" = .list datasets
  axisKind : IsAxisKind (datasetKind raw)
  points : ∃ d ∈ datasets, itemsIn d "data" ≠ []
  plain : ∀ d ∈ datasets, ((itemsIn d "data").headD .null).isObject = false
  inRange : ∀ d ∈ datasets, d.inRange = true

variable {labels datasets : List Datum}

theorem carriesLabels_of_plain {points : List Datum} (h : (points.headD .null).isObject = false) :
    carriesLabels points = false := by
  unfold carriesLabels
  cases hfirst : points.headD .null with
  | object => rw [hfirst] at h; cases h
  | _ => rfl

theorem exists_lines (h : ∀ d ∈ datasets, d.inRange = true) :
    ∃ lines, datasets.zipIdx.mapM (fun (d, i) => lineOfDataset d i) = .ok lines := by
  have hranged : Ranged True (datasets.zipIdx.mapM fun (d, i) => lineOfDataset d i) :=
    ranged_mapM fun (d, i) hd =>
      (ranged_numbersOf fun v hv _ => inRange_of_mem_itemsIn
        (h d (List.fst_mem_of_mem_zipIdx hd)) "data" v hv).bind fun _ _ => ranged_ok _
  exact hranged.1 trivial

/-- A chart that is no key figure is repaired in the form with series. -/
theorem mended_withoutDatasets (hkpi : (Record.get raw "kpi").isObject = false)
    (settings : Settings) (rows : Datum) : Chart.mended settings raw rows =
      Chart.mended settings (Chart.withoutDatasets raw) rows := by
  have hplain := Chart.plain_withoutDatasets hkpi
  unfold Chart.mended
  simp only [hkpi, hplain.not_kpi, Chart.withoutDatasets_of_not hplain.not_hasDatasets,
    Bool.false_eq_true, if_false]

theorem figureOf_of_isPlain (hkpi : (Record.get raw "kpi").isObject = false) {labels : List String}
    (h : IsPlain (Chart.withoutDatasets raw) kind labels series) {settings : Settings}
    (hlevels : (object raw).levels ≤ settings.limits.copying) (rows : Datum) (theme : Theme)
    {lines : List Line} (hlines : linesOf "data" series = .ok lines) :
    figureOf settings (.object raw) rows theme =
      .ok (axisFigure (Chart.withoutDatasets raw) kind labels lines theme) := by
  rw [figureOf, Chart.repaired_of_le hlevels, mended_withoutDatasets hkpi, Chart.mended_of_keeps
    (Chart.plain_withoutDatasets hkpi) h.get_series h.keepsPoints h.isDrawable]
  refine (h.ofChart_keptChart theme).trans ?_
  rw [hlines]
  rfl

theorem datasetKind_ne_empty (raw : Record) : datasetKind raw ≠ "" :=
  Text.lower_ne_empty (label_ne_empty (truthy_orElse rfl))

theorem itemsIn_serieOfDataset (kind : String) (d : Datum) (i : Nat) :
    itemsIn (Chart.serieOfDataset kind d i) "data" = itemsIn d "data" := itemsIn_of_get rfl

theorem isPlain_chartOfDatasets (h : OfDatasets raw labels datasets) :
    IsPlain (Chart.chartOfDatasets raw labels datasets) (datasetKind raw)
      (labels.map Datum.label)
      (datasets.zipIdx.map fun p => Chart.serieOfDataset (datasetKind raw) p.1 p.2) where
  get_series := rfl
  objects := List.forall_mem_map.mpr fun _ _ => rfl
  labels := by
    have hlabel (s : String) : (Datum.text s).label = s := rfl
    simp [Chart.chartOfDatasets, axisLabels?, texts, asList?, hlabel, Function.comp_def]
  get_kpi := rfl
  get_mark := rfl
  get_chart := rfl
  axisKind := h.axisKind
  kinds := List.forall_mem_map.mpr fun p _ => by
    have htype : Record.get (Chart.serieOfDataset (datasetKind raw) p.1 p.2).members "type" =
        .text (datasetKind raw) := rfl
    rw [serieKind_of_type rfl htype, if_neg (datasetKind_ne_empty raw)]
    exact Text.lower_lower _
  plain := List.forall_mem_map.mpr fun p hp => by
    rw [itemsIn_serieOfDataset]
    exact carriesLabels_of_plain (h.plain p.1 (List.fst_mem_of_mem_zipIdx hp))
  points := by
    obtain ⟨d, hd, hitems⟩ := h.points
    obtain ⟨i, hi⟩ := List.mem_iff_getElem?.mp hd
    exact ⟨_, List.mem_map_of_mem (List.mk_mem_zipIdx_iff_getElem?.mpr hi),
      (itemsIn_serieOfDataset _ d i).symm ▸ hitems⟩

theorem isPlain_nativeChart (h : OfDatasets raw labels datasets) :
    IsPlain (nativeChart raw labels datasets) (datasetKind raw) (labels.map Datum.label)
      (datasets.map (nativeSerie (Record.get raw "type"))) where
  get_series := rfl
  objects := List.forall_mem_map.mpr fun _ _ => rfl
  labels := rfl
  get_kpi := rfl
  get_mark := rfl
  get_chart := rfl
  axisKind := h.axisKind
  kinds := List.forall_mem_map.mpr fun d _ => by
    have hchart : Record.get (nativeChart raw labels datasets) "type" = .null := rfl
    have htype : Record.get (nativeSerie (Record.get raw "type") d).members "type" =
        Record.get raw "type" := rfl
    rw [serieKind, hchart, htype, datasetKind]
    unfold Datum.orElse
    by_cases htruthy : (Record.get raw "type").truthy = true
    · simp [htruthy]
    · simp [htruthy, show Datum.null.truthy = false from rfl]
  plain := List.forall_mem_map.mpr fun d hd => carriesLabels_of_plain (h.plain d hd)
  points := by
    obtain ⟨d, hd, hitems⟩ := h.points
    exact ⟨_, List.mem_map_of_mem hd, hitems⟩

/-- Both forms list the same numbers under the same names. -/
theorem lineOf_serieOfDataset (kind : String) (d : Datum) (i : Nat) :
    lineOf "data" (Chart.serieOfDataset kind d i) i = lineOfDataset d i := by
  have hlabel : ((Chart.serieOfDataset kind d i).get "name").label =
      nameOrNumber (d.get "label") "Series" i := rfl
  have hname := serieName_of_label hlabel (Chart.nameOrNumber_ne_empty _ (by decide) i) i
  rw [lineOf, lineOfDataset, hname, itemsIn_serieOfDataset]

theorem linesOf_serieOfDataset (kind : String) (datasets : List Datum) :
    linesOf "data" (datasets.zipIdx.map fun p => Chart.serieOfDataset kind p.1 p.2) =
      datasets.zipIdx.mapM fun (d, i) => lineOfDataset d i :=
  mapM_zipIdx_map_zipIdx fun d _ i => lineOf_serieOfDataset kind d i

theorem linesOf_nativeSerie (kind : Datum) (datasets : List Datum) :
    linesOf "data" (datasets.map (nativeSerie kind)) =
      datasets.zipIdx.mapM fun (d, i) => lineOfDataset d i := by
  rw [linesOf, List.zipIdx_map, List.mapM_map]
  rfl

theorem figureOf_of_datasets (h : OfDatasets raw labels datasets) {settings : Settings}
    (hlevels : (object raw).levels ≤ settings.limits.copying) (rows : Datum) (theme : Theme)
    {lines : List Line}
    (hlines : datasets.zipIdx.mapM (fun (d, i) => lineOfDataset d i) = .ok lines) :
    figureOf settings (.object raw) rows theme =
      .ok (axisFigure (Chart.chartOfDatasets raw labels datasets) (datasetKind raw)
        (labels.map Datum.label) lines theme) := by
  have hmade : Chart.withoutDatasets raw = Chart.chartOfDatasets raw labels datasets := by
    simp only [Chart.withoutDatasets, h.get_labels, h.get_datasets]
  rw [← hmade]
  exact figureOf_of_isPlain h.not_kpi (hmade ▸ isPlain_chartOfDatasets h) hlevels rows theme
    ((linesOf_serieOfDataset _ _).trans hlines)

theorem figureOf_nativeChart (h : OfDatasets raw labels datasets) {settings : Settings}
    (hlevels : (object (nativeChart raw labels datasets)).levels ≤ settings.limits.copying)
    (rows : Datum) (theme : Theme) {lines : List Line}
    (hlines : datasets.zipIdx.mapM (fun (d, i) => lineOfDataset d i) = .ok lines) :
    figureOf settings (.object (nativeChart raw labels datasets)) rows theme =
      .ok (axisFigure (nativeChart raw labels datasets) (datasetKind raw)
        (labels.map Datum.label) lines theme) := by
  have hnative : Chart.withoutDatasets (nativeChart raw labels datasets) =
      nativeChart raw labels datasets := Chart.withoutDatasets_of_not rfl
  have hplain : IsPlain (Chart.withoutDatasets (nativeChart raw labels datasets))
      (datasetKind raw) (labels.map Datum.label)
      (datasets.map (nativeSerie (Record.get raw "type"))) := by
    rw [hnative]
    exact isPlain_nativeChart h
  rw [figureOf_of_isPlain rfl hplain hlevels rows theme
    ((linesOf_nativeSerie _ _).trans hlines), hnative]

/-- The title that is shown for a chart of labels with datasets. -/
def datasetTitle (raw : Record) : String :=
  if (Record.get raw "title").truthy then titleOf (.object raw) else Chart.generatedTitle.label

theorem titleOf_chartOfDatasets (raw : Record) (labels datasets : List Datum) :
    titleOf (.object (Chart.chartOfDatasets raw labels datasets)) = datasetTitle raw := by
  have hget : (Datum.object (Chart.chartOfDatasets raw labels datasets)).get "title" =
      (Record.get raw "title").orElse (.object [("text", Chart.generatedTitle)]) := rfl
  rw [titleOf, hget, datasetTitle, Datum.orElse]
  by_cases htruthy : (Record.get raw "title").truthy = true
  · rw [if_pos htruthy, if_pos htruthy]
    rfl
  · rw [if_neg htruthy, if_neg htruthy]
    rfl

/-- A chart of labels with datasets has a figure over axes: its categories are the texts of the
labels, and each dataset has a line or a row of bars under its name, in order.  The form with series
has the same figure, but for the title if that reads as false. -/
theorem figureOf_datasets (h : OfDatasets raw labels datasets) {settings : Settings}
    (hlevels : (object raw).levels ≤ settings.limits.copying)
    (hnative : (object (nativeChart raw labels datasets)).levels ≤ settings.limits.copying)
    (rows : Datum) (theme : Theme) :
    ∃ lines f, datasets.zipIdx.mapM (fun (d, i) => lineOfDataset d i) = .ok lines ∧
      figureOf settings (.object raw) rows theme = .ok f ∧ f.fallback = false ∧
      f.content = .axis (datasetKind raw == "line") (labels.map Datum.label) lines "" "Values" ∧
      f.title = .text (datasetTitle raw) ∧
      figureOf settings (.object (nativeChart raw labels datasets)) rows theme =
        .ok { f with title := .text (titleOf (.object raw)) } ∧
      ((Record.get raw "title").truthy = true →
        figureOf settings (.object (nativeChart raw labels datasets)) rows theme = .ok f) := by
  obtain ⟨lines, hlines⟩ := exists_lines h.inRange
  have hother := figureOf_nativeChart h hnative rows theme hlines
  have htitle := titleOf_chartOfDatasets raw labels datasets
  have hsame : axisFigure (nativeChart raw labels datasets) (datasetKind raw)
      (labels.map Datum.label) lines theme =
        { axisFigure (Chart.chartOfDatasets raw labels datasets) (datasetKind raw)
            (labels.map Datum.label) lines theme with
          title := .text (titleOf (.object raw)) } := rfl
  refine ⟨lines, _, hlines, figureOf_of_datasets h hlevels rows theme hlines, rfl, rfl,
    congrArg Datum.text htitle, hsame ▸ hother, fun htruthy => ?_⟩
  have hraw : titleOf (.object raw) =
      titleOf (.object (Chart.chartOfDatasets raw labels datasets)) := by
    rw [htitle, datasetTitle, if_pos htruthy]
  rw [hother, hsame, hraw]
  rfl

/-- Two datasets, one without values. -/
theorem figureOf_datasets_two :
    let datasets : List Datum := [.object [("label", .text "Total"), ("data", .list [.null])],
      .text "none"]
    let raw : Record := [("type", .text "LINE"), ("title", .text "Sales"),
      ("data", .object [("labels", .list [.bool true]), ("datasets", .list datasets)])]
    OfDatasets raw [.bool true] datasets ∧
      ∃ f, figureOf {} (.object raw) .null {} = .ok f ∧ f.title = .text "Sales" ∧
        f.content.categories = ["True"] ∧
        figureOf {} (.object (nativeChart raw [.bool true] datasets)) .null {} = .ok f := by
  intro datasets raw
  have hof : OfDatasets raw [.bool true] datasets := {
    not_kpi := rfl
    get_labels := rfl
    get_datasets := rfl
    axisKind := by decide +kernel
    points := ⟨_, List.mem_cons_self, by decide⟩
    plain := List.forall_mem_cons.mpr ⟨rfl, List.forall_mem_singleton.mpr rfl⟩
    inRange := by simp [datasets] }
  have hraw : (object raw).levels ≤ (default : Settings).limits.copying := by decide
  have hnative : (object (nativeChart raw [.bool true] datasets)).levels ≤
      (default : Settings).limits.copying := by decide
  obtain ⟨lines, f, -, hf, -, hcontent, htitle, -, hsame⟩ :=
    figureOf_datasets hof hraw hnative .null {}
  refine ⟨hof, f, hf, htitle, ?_, hsame rfl⟩
  rw [hcontent]
  rfl

/-- A title that reads as false gives way to one in the first form only. -/
theorem not_figureOf_native : ¬ ∀ (raw : Record) (labels datasets : List Datum),
    OfDatasets raw labels datasets → ∀ (settings : Settings) rows theme,
      (object raw).levels ≤ settings.limits.copying →
        (object (nativeChart raw labels datasets)).levels ≤ settings.limits.copying →
          figureOf settings (.object raw) rows theme =
            figureOf settings (.object (nativeChart raw labels datasets)) rows theme := by
  intro h
  let datasets : List Datum := [.object [("data", .list [.int 1])]]
  let raw : Record := [("type", .text "bar"), ("title", .text ""),
    ("data", .object [("labels", .list [.text "a"]), ("datasets", .list datasets)])]
  have hof : OfDatasets raw [.text "a"] datasets := {
    not_kpi := rfl
    get_labels := rfl
    get_datasets := rfl
    axisKind := by decide +kernel
    points := ⟨_, List.mem_cons_self, by decide⟩
    plain := List.forall_mem_singleton.mpr rfl
    inRange := List.forall_mem_singleton.mpr (by decide +kernel) }
  obtain ⟨lines, hlines⟩ := exists_lines hof.inRange
  have hraw : (object raw).levels ≤ (default : Settings).limits.copying := by decide
  have hnative : (object (nativeChart raw [.text "a"] datasets)).levels ≤
      (default : Settings).limits.copying := by decide
  have hsame := h raw [.text "a"] datasets hof default .null {} hraw hnative
  rw [figureOf_of_datasets hof hraw .null {} hlines,
    figureOf_nativeChart hof hnative .null {} hlines] at hsame
  have htitle : "Generated chart" = "" :=
    Datum.text.inj (congrArg Figure.title (Except.ok.inj hsame))
  exact absurd htitle (by decide)

end ChartBoard.Figure
