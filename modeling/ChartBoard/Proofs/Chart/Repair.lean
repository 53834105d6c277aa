import ChartBoard.Proofs.Chart.RepairedSeries
import ChartBoard.Proofs.Datum.Levels

/-!
# Repairing a chart again

A repaired chart is repaired once more before it is shown.  That leaves the kinds, the names and
the values of its series alone, but not the names of its slices: these are taken from the X axis,
and the first repair may itself have put the labels of another series there, or have named slices
by their position without an axis that says so.  What comes of a second repair is final.

* `Settled` says that the slices of a chart have the names that its X axis gives them.
* `repaired_repaired` says that the charts which a second repair keeps are the settled ones, and
  that a third repair keeps all others.
* `not_repaired_same` gives a chart that a second repair changes.
-/

namespace ChartBoard.Chart

variable {chart : Record} {labels : List String}

/-! ## Labels of the axis -/

theorem withAxisLabels_of_labels {given : List String}
    (h : axisLabels? (Record.get chart "xAxis") = some given) :
    withAxisLabels labels chart = chart := by
  have hlist : ((Record.get chart "xAxis").get "data").asList?.isSome = true := by
    obtain ⟨items, hitems, -⟩ := Option.map_eq_some_iff.mp h
    rw [hitems]
    rfl
  unfold withAxisLabels
  simp only [hlist, Bool.true_or, if_true]

theorem withAxisLabels_nil : withAxisLabels [] chart = chart := by
  simp [withAxisLabels]

theorem axisLabels?_withAxisLabels (h : axisLabels? (Record.get chart "xAxis") = none)
    (hlabels : labels ≠ []) :
    axisLabels? (Record.get (withAxisLabels labels chart) "xAxis") = some labels := by
  have hlist : ((Record.get chart "xAxis").get "data").asList?.isSome = false := by
    rw [Option.map_eq_none_iff.mp h]
    rfl
  have hne : labels.isEmpty = false := by simpa using hlabels
  have hlabel : ∀ s : String, (Datum.text s).label = s := fun _ => rfl
  unfold withAxisLabels
  simp only [hlist, hne, Bool.false_or, Bool.false_eq_true, if_false]
  simp [axisLabels?, Datum.texts, Datum.asList?, hlabel, Function.comp_def]

theorem get?_withAxisLabels {name : String} (h : "xAxis" ≠ name) :
    Record.get? (withAxisLabels labels chart) name = Record.get? chart name := by
  unfold withAxisLabels
  dsimp only
  split
  · rfl
  · rw [Record.get?_set, if_neg h]

theorem levels_withAxisLabels {n : Nat} (h : (Datum.object chart).levels ≤ n + 3)
    (labels : List String) : (Datum.object (withAxisLabels labels chart)).levels ≤ n + 3 := by
  unfold withAxisLabels
  extract_lets axis
  split
  · exact h
  · have haxis : axis.levels ≤ n + 2 := Datum.levels_get h "xAxis"
    have hlabels : (Datum.texts labels).levels ≤ n + 1 :=
      Nat.le_trans (Datum.levels_texts labels) (Nat.le_add_left 1 n)
    exact Datum.levels_set h (Datum.levels_set (Datum.levels_members haxis) hlabels "data") "xAxis"

/-! ## Charts -/

/-- True of a chart that is given as labels with datasets. -/
def hasDatasets (chart : Record) : Bool :=
  let data := Record.get chart "data"
  (data.get "datasets").asList?.isSome && (data.get "labels").asList?.isSome

theorem withoutDatasets_of_not (h : hasDatasets chart = false) :
    withoutDatasets chart = chart := by
  unfold withoutDatasets
  dsimp only
  split
  · rename_i hdatasets hlabels
    simp [hasDatasets, hdatasets, hlabels, Datum.asList?] at h
  · rfl

theorem withoutDatasets_of_hasDatasets (h : hasDatasets chart = true) :
    ∃ labels datasets, (Record.get chart "data").get "datasets" = .list datasets ∧
      withoutDatasets chart = chartOfDatasets chart labels datasets := by
  obtain ⟨hdatasets, hlabels⟩ := Bool.and_eq_true_iff.mp h
  obtain ⟨datasets, hdatasets⟩ := Option.isSome_iff_exists.mp hdatasets
  obtain ⟨labels, hlabels⟩ := Option.isSome_iff_exists.mp hlabels
  refine ⟨labels, datasets, Datum.asList?_eq_some.mp hdatasets, ?_⟩
  simp only [withoutDatasets, Datum.asList?_eq_some.mp hdatasets,
    Datum.asList?_eq_some.mp hlabels]

/-- A chart that is no key figure and not given as labels with datasets. -/
structure Plain (chart : Record) : Prop where
  not_kpi : (Record.get chart "kpi").isObject = false
  not_hasDatasets : hasDatasets chart = false

theorem Plain.set (h : Plain chart) {name : String} (hkpi : name ≠ "kpi") (hdata : name ≠ "data")
    (value : Datum) : Plain (Record.set chart name value) where
  not_kpi := by
    rw [Record.get_set, if_neg hkpi]
    exact h.not_kpi
  not_hasDatasets := by
    unfold hasDatasets
    rw [Record.get_set, if_neg hdata]
    exact h.not_hasDatasets

theorem Plain.withAxisLabels (h : Plain chart) (labels : List String) :
    Plain (withAxisLabels labels chart) := by
  unfold Chart.withAxisLabels
  dsimp only
  split
  · exact h
  · exact h.set (by decide) (by decide) _

/-- Datasets are turned into series, which are no datasets. -/
theorem plain_withoutDatasets (h : (Record.get chart "kpi").isObject = false) :
    Plain (withoutDatasets chart) := by
  cases hdatasets : hasDatasets chart with
  | false =>
    rw [withoutDatasets_of_not hdatasets]
    exact ⟨h, hdatasets⟩
  | true =>
    obtain ⟨labels, datasets, -, hmade⟩ := withoutDatasets_of_hasDatasets hdatasets
    rw [hmade]
    exact ⟨rfl, rfl⟩

theorem mended_of_kpi (hkpi : (Record.get chart "kpi").isObject = true) (settings : Settings)
    (rows : Datum) : mended settings chart rows = .ok (some chart) := by
  rw [mended, if_pos hkpi]

theorem mended_of_none (hkpi : (Record.get chart "kpi").isObject = false)
    (hseries : seriesOf? (withoutDatasets chart) = none) (settings : Settings) (rows : Datum) :
    mended settings chart rows = fallbackChart settings rows := by
  unfold mended
  simp only [hkpi, hseries, Bool.false_eq_true, if_false]

theorem mended_of_series (hkpi : (Record.get chart "kpi").isObject = false) {series : List Datum}
    (hseries : seriesOf? (withoutDatasets chart) = some series) (settings : Settings)
    (rows : Datum) : mended settings chart rows =
      (withRepairedSeries (withoutDatasets chart) series >>= fun result =>
        if isDrawable (.object result) then .ok (some result)
        else fallbackChart settings rows) := by
  unfold mended
  simp only [hkpi, hseries, Bool.false_eq_true, if_false]
  cases withRepairedSeries (withoutDatasets chart) series <;> rfl

section Copies

variable {settings : Settings}

/-- A value that is no object, or one that nests not too deep to be copied. -/
def Copyable (limits : Limits) (v : Datum) : Prop := v.isObject = true → v.levels ≤ limits.copying

theorem copyable_object {limits : Limits} :
    Copyable limits (.object chart) ↔ (Datum.object chart).levels ≤ limits.copying := by
  simp [Copyable, Datum.isObject]

theorem repaired_of_le (h : (Datum.object chart).levels ≤ settings.limits.copying) (rows : Datum) :
    repaired settings (.object chart) rows = mended settings chart rows := by
  rw [repaired, Record.copied_of_le h]
  rfl

theorem repaired_of_lt (h : settings.limits.copying < (Datum.object chart).levels) (rows : Datum) :
    repaired settings (.object chart) rows = .error .tooDeepToCopy := by
  rw [repaired, Record.copied_of_lt h]
  rfl

theorem repaired_eq_ok {rows : Datum} {made : Option Record} :
    repaired settings (.object chart) rows = .ok made ↔
      (Datum.object chart).levels ≤ settings.limits.copying ∧
        mended settings chart rows = .ok made := by
  by_cases h : (Datum.object chart).levels ≤ settings.limits.copying
  · simp [repaired_of_le h, h]
  · simp [repaired_of_lt (Nat.lt_of_not_le h), h]

theorem copyable_of_repaired {raw rows : Datum} {made : Option Record}
    (h : repaired settings raw rows = .ok made) : Copyable settings.limits raw := by
  cases raw with
  | object chart => exact copyable_object.mpr (repaired_eq_ok.mp h).1
  | _ => exact nofun

/-- Without rows to fall back on, what a repair gives is a key figure as it was or a chart of the
series that were given. -/
theorem repaired_eq_some {raw : Datum} (h : repaired settings raw .null = .ok (some chart)) :
    ∃ given, raw = .object given ∧ (Datum.object given).levels ≤ settings.limits.copying ∧
      ((Record.get given "kpi").isObject = true ∧ given = chart ∨
        (Record.get given "kpi").isObject = false ∧ isDrawable (.object chart) = true ∧
          ∃ series, seriesOf? (withoutDatasets given) = some series ∧
            withRepairedSeries (withoutDatasets given) series = .ok chart) := by
  have hfallback : fallbackChart settings .null = .ok none := rfl
  cases raw with
  | object given =>
    obtain ⟨hlevels, h⟩ := repaired_eq_ok.mp h
    refine ⟨given, rfl, hlevels, ?_⟩
    cases hkpi : (Record.get given "kpi").isObject with
    | true =>
      rw [mended_of_kpi hkpi] at h
      exact .inl ⟨rfl, Option.some.inj (Except.ok.inj h)⟩
    | false =>
      right
      cases hseries : seriesOf? (withoutDatasets given) with
      | none =>
        rw [mended_of_none hkpi hseries, hfallback] at h
        cases h
      | some series =>
        rw [mended_of_series hkpi hseries] at h
        obtain ⟨result, hresult, h⟩ := Result.bind_eq_ok.mp h
        split at h
        · rename_i hdrawable
          obtain rfl := Option.some.inj (Except.ok.inj h)
          exact ⟨rfl, hdrawable, series, rfl, hresult⟩
        · cases hfallback.symm.trans h
  | _ => cases hfallback.symm.trans h

end Copies

/-- A chart that lists repaired series, of which one has points, and nothing else to repair. -/
structure Repaired (chart : Record) (series : List RepairedSerie) : Prop where
  plain : Plain chart
  get?_series : Record.get? chart "series" = some (.list (series.map (·.toDatum)))
  drawable : ∃ s ∈ series, s.shown.points ≠ []

theorem isDrawable_iff {series : List RepairedSerie}
    (h : Record.get? chart "series" = some (.list (series.map (·.toDatum)))) :
    isDrawable (.object chart) = true ↔ ∃ s ∈ series, s.shown.points ≠ [] := by
  rw [isDrawable, Datum.get_object, Record.get_of_get? _ _ _ h]
  simp [RepairedSerie.hasPoints_toDatum]

theorem withRepairedSeries_eq (chart : Record) (series : List Datum) :
    withRepairedSeries chart series =
      (repairedSeries chart (axisLabels? (Record.get chart "xAxis")) [] 0 series).map fun found =>
        withAxisLabels found.1 (Record.set chart "series" (.list found.2)) := by
  unfold withRepairedSeries
  dsimp only
  cases repairedSeries chart (axisLabels? (Record.get chart "xAxis")) [] 0 series <;> rfl

/-- The chart with its series under the labels of an axis. -/
def relabeled (chart : Record) (series : List RepairedSerie) (axis : Option (List String)) :
    Record :=
  Record.set chart "series" (.list ((series.map (·.under axis)).map (·.toDatum)))

/-- The slices of every pie have the names that the X axis gives them.  Key figures have none. -/
def Settled (chart : Record) : Prop :=
  (Record.get chart "kpi").isObject = true ∨
    ∀ serie ∈ (Record.get chart "series").asList?.getD [], serie.get "type" = .text "pie" →
      ∀ points, serie.get "data" = .list points → carriesLabels points = true →
        ∃ labels, axisLabels? (Record.get chart "xAxis") = some labels ∧ NamedBy labels points

namespace Repaired

variable {series : List RepairedSerie}

theorem withAxisLabels (h : Repaired chart series) (labels : List String) :
    Repaired (Chart.withAxisLabels labels chart) series where
  plain := h.plain.withAxisLabels labels
  get?_series := by rw [get?_withAxisLabels (by decide), h.get?_series]
  drawable := h.drawable

theorem relabeled (h : Repaired chart series) (axis : Option (List String)) :
    Repaired (relabeled chart series axis) (series.map (·.under axis)) where
  plain := h.plain.set (by decide) (by decide) _
  get?_series := by rw [Chart.relabeled, Record.get?_set, if_pos rfl]
  drawable := by
    obtain ⟨s, hs, hpoints⟩ := h.drawable
    refine ⟨s.under axis, List.mem_map_of_mem hs, fun hnil => hpoints ?_⟩
    have hlength := s.shown.length_points_under axis
    rw [show (s.shown.under axis).points = [] from hnil] at hlength
    exact List.eq_nil_of_length_eq_zero hlength.symm

theorem relabeled_eq_iff (h : Repaired chart series) (axis : Option (List String)) :
    Chart.relabeled chart series axis = chart ↔
      ∀ s ∈ series, (s.shown.under axis).points = s.shown.points := by
  have hlists : (series.map (·.under axis)).map (·.toDatum) = series.map (·.toDatum) ↔
      ∀ s ∈ series, (s.shown.under axis).points = s.shown.points := by
    rw [List.map_map, List.map_inj_left]
    exact forall₂_congr fun s _ => s.toDatum_under_eq_iff axis
  rw [← hlists]
  constructor
  · intro heq
    have hget := (h.relabeled axis).get?_series
    rw [heq, h.get?_series] at hget
    exact (Datum.list.inj (Option.some.inj hget)).symm
  · intro heq
    refine Record.set_of_get? _ _ _ ?_
    rw [heq, h.get?_series]

theorem get_relabeled_xAxis (axis : Option (List String)) :
    Record.get (Chart.relabeled chart series axis) "xAxis" = Record.get chart "xAxis" := by
  rw [Chart.relabeled, Record.get_set, if_neg (by decide)]

/-- A repair puts the slices under the labels of the axis, or the labels of the points on it. -/
theorem mended_eq (h : Repaired chart series) (settings : Settings) (rows : Datum) :
    mended settings chart rows = .ok (some (Chart.withAxisLabels (labelsOf series [])
      (Chart.relabeled chart series (axisLabels? (Record.get chart "xAxis"))))) := by
  have hdatasets := withoutDatasets_of_not h.plain.not_hasDatasets
  have hseries : seriesOf? (withoutDatasets chart) = some (series.map (·.toDatum)) := by
    rw [hdatasets, seriesOf?, Record.get_of_get? _ _ _ h.get?_series]
  have hnext := (h.relabeled (axisLabels? (Record.get chart "xAxis"))).withAxisLabels
    (labelsOf series [])
  rw [mended_of_series h.plain.not_kpi hseries, hdatasets, withRepairedSeries_eq,
    repairedSeries_toDatum, Except.map, Chart.relabeled, List.map_map]
  rw [Chart.relabeled, List.map_map] at hnext
  exact if_pos ((isDrawable_iff hnext.get?_series).mpr hnext.drawable)

theorem settled_iff (h : Repaired chart series) : Settled chart ↔ ∀ s ∈ series, s.kind = "pie" →
    carriesLabels s.shown.points = true →
      ∃ labels, axisLabels? (Record.get chart "xAxis") = some labels ∧
        NamedBy labels s.shown.points := by
  have hlist : (Record.get chart "series").asList?.getD [] = series.map (·.toDatum) := by
    rw [Record.get_of_get? _ _ _ h.get?_series]
    rfl
  have htype : ∀ s : RepairedSerie, s.toDatum.get "type" = .text s.kind := fun s =>
    Record.get_of_get? _ _ _ s.get?_type
  have hdata : ∀ s : RepairedSerie, s.toDatum.get "data" = .list s.shown.points := fun s =>
    Record.get_of_get? _ _ _ s.get?_data
  simp only [Settled, h.plain.not_kpi, Bool.false_eq_true, false_or, hlist, List.forall_mem_map,
    htype, hdata, Datum.text.injEq, Datum.list.injEq, forall_eq']

/-- Under the labels of an axis only the slices are made anew, and they hold no further parts. -/
theorem levels_relabeled (h : Repaired chart series) {n : Nat}
    (hlevels : (Datum.object chart).levels ≤ n + 5) (axis : Option (List String)) :
    (Datum.object (Chart.relabeled chart series axis)).levels ≤ n + 5 := by
  have hlist : (Datum.list (series.map (·.toDatum))).levels ≤ n + 4 := by
    have hget := Datum.levels_get hlevels "series"
    rwa [Datum.get_object, Record.get_of_get? _ _ _ h.get?_series] at hget
  refine Datum.levels_set hlevels ?_ "series"
  rw [Datum.levels_list_map_le, List.forall_mem_map]
  intro s hs
  have hserie : s.toDatum.levels ≤ n + 3 := Datum.levels_list_map_le.mp hlist s hs
  have hpoints : (Datum.list s.shown.points).levels ≤ n + 2 := by
    have hget := Datum.levels_get hserie "data"
    rwa [RepairedSerie.toDatum, Datum.get_object, Record.get_of_get? _ _ _ s.get?_data] at hget
  exact Datum.levels_set hserie (s.shown.levels_under hpoints axis) "data"

/-! ## Axes with labels -/

section

variable {given : List String}

theorem mended_of_labels (h : Repaired chart series)
    (haxis : axisLabels? (Record.get chart "xAxis") = some given) (settings : Settings)
    (rows : Datum) : mended settings chart rows =
      .ok (some (Chart.relabeled chart series (some given))) := by
  have haxis' : axisLabels? (Record.get (Chart.relabeled chart series (some given)) "xAxis") =
      some given := by rw [get_relabeled_xAxis, haxis]
  rw [h.mended_eq, haxis, withAxisLabels_of_labels haxis']

theorem mended_relabeled (h : Repaired chart series)
    (haxis : axisLabels? (Record.get chart "xAxis") = some given) (settings : Settings)
    (rows : Datum) : mended settings (Chart.relabeled chart series (some given)) rows =
      .ok (some (Chart.relabeled chart series (some given))) := by
  have hnext := h.relabeled (some given)
  have hsame : Chart.relabeled (Chart.relabeled chart series (some given))
      (series.map (·.under (some given))) (some given) =
        Chart.relabeled chart series (some given) := by
    refine (hnext.relabeled_eq_iff (some given)).mpr fun s hs => ?_
    obtain ⟨t, -, rfl⟩ := List.mem_map.mp hs
    exact congrArg Shown.points (t.shown.under_under given)
  rw [hnext.mended_of_labels (by rw [get_relabeled_xAxis, haxis]), hsame]

theorem settled_iff_of_labels (h : Repaired chart series)
    (haxis : axisLabels? (Record.get chart "xAxis") = some given) : Settled chart ↔
      ∀ s ∈ series, (s.shown.under (some given)).points = s.shown.points := by
  rw [h.settled_iff]
  refine forall₂_congr fun s _ => ?_
  simp [s.shown.points_under_eq_iff s.final, haxis]

end

/-! ## Axes without labels -/

theorem mended_of_none (h : Repaired chart series)
    (haxis : axisLabels? (Record.get chart "xAxis") = none) (settings : Settings) (rows : Datum) :
    mended settings chart rows =
      .ok (some (Chart.withAxisLabels (labelsOf series []) chart)) := by
  have hsame : Chart.relabeled chart series none = chart :=
    (h.relabeled_eq_iff none).mpr fun s _ => by rw [Shown.under_none s.final]
  rw [h.mended_eq, haxis, hsame]

/-- Slices named by their position keep their names under the labels that they give to the axis. -/
theorem mended_withAxisLabels (h : Repaired chart series)
    (haxis : axisLabels? (Record.get chart "xAxis") = none)
    (hnumbered : ∀ s ∈ series, s.shown.under (some []) = s.shown) (settings : Settings)
    (rows : Datum) :
    mended settings (Chart.withAxisLabels (labelsOf series []) chart) rows =
      .ok (some (Chart.withAxisLabels (labelsOf series []) chart)) := by
  by_cases hlabels : labelsOf series [] = []
  · rw [hlabels, withAxisLabels_nil, h.mended_of_none haxis, hlabels, withAxisLabels_nil]
  · have hnext := h.withAxisLabels (labelsOf series [])
    have hsame := (hnext.relabeled_eq_iff (some (labelsOf series []))).mpr fun s hs => by
      rw [s.shown.under_congr (sliceName_labelsOf hnumbered), hnumbered s hs]
    rw [hnext.mended_of_labels (axisLabels?_withAxisLabels haxis hlabels), hsame]

theorem settled_iff_of_none (h : Repaired chart series)
    (haxis : axisLabels? (Record.get chart "xAxis") = none) :
    Settled chart ↔ labelsOf series [] = [] := by
  rw [h.settled_iff, labelsOf_eq_nil_iff]
  simp [haxis]

end Repaired

/-! ## A second repair -/

theorem exists_of_withRepairedSeries {given : Record} {vs : List Datum} (hplain : Plain given)
    (h : withRepairedSeries given vs = .ok chart) (hdrawable : isDrawable (.object chart) = true) :
    ∃ series, Repaired chart series ∧ (axisLabels? (Record.get chart "xAxis") = none →
      ∀ s ∈ series, s.shown.under (some []) = s.shown) := by
  rw [withRepairedSeries_eq] at h
  obtain ⟨⟨labels, ws⟩, hws, rfl⟩ := Result.map_eq_ok.mp h
  obtain ⟨series, rfl, hunder, -⟩ := repairedSeries_eq_ok hws
  -- without labels on the axis no points carried any, so that slices were named by position
  have hlisted : Record.get? (Record.set given "series" (.list (series.map (·.toDatum)))) "series" =
      some (.list (series.map (·.toDatum))) := by rw [Record.get?_set, if_pos rfl]
  have hrepaired : Repaired (Record.set given "series" (.list (series.map (·.toDatum)))) series := {
    plain := hplain.set (by decide) (by decide) _
    get?_series := hlisted
    drawable := (isDrawable_iff (by rw [get?_withAxisLabels (by decide), hlisted])).mp hdrawable }
  refine ⟨series, hrepaired.withAxisLabels labels, fun haxis s hs => ?_⟩
  have hxAxis : Record.get (Record.set given "series" (.list (series.map (·.toDatum)))) "xAxis" =
      Record.get given "xAxis" := by rw [Record.get_set, if_neg (by decide)]
  obtain ⟨found, hfound, hshown⟩ := hunder s hs
  cases hgiven : axisLabels? (Record.get given "xAxis") with
  | some labels' =>
    rw [withAxisLabels_of_labels (by rw [hxAxis, hgiven]), hxAxis, hgiven] at haxis
    cases haxis
  | none =>
    have hlabels : labels = [] := by
      by_contra hlabels
      rw [axisLabels?_withAxisLabels (by rw [hxAxis, hgiven]) hlabels] at haxis
      cases haxis
    rwa [hgiven, hfound hlabels] at hshown

theorem exists_repaired {settings : Settings} {raw : Datum} {chart : Record}
    (h : repaired settings raw .null = .ok (some chart)) :
    (Record.get chart "kpi").isObject = true ∨ ∃ series, Repaired chart series ∧
      (axisLabels? (Record.get chart "xAxis") = none →
        ∀ s ∈ series, s.shown.under (some []) = s.shown) := by
  obtain ⟨given, -, -, ⟨hkpi, rfl⟩ | ⟨hkpi, hdrawable, vs, -, hmade⟩⟩ := repaired_eq_some h
  · exact .inl hkpi
  · exact .inr (exists_of_withRepairedSeries (plain_withoutDatasets hkpi) hmade hdrawable)

/-- The next repair changes a repaired chart only where it is not settled, and there once and for
all. -/
theorem repaired_repaired {settings : Settings} {raw : Datum} {chart : Record}
    (h : repaired settings raw .null = .ok (some chart))
    (hlevels : (Datum.object chart).levels ≤ settings.limits.copying) (rows rows' : Datum) :
    ∃ next, repaired settings (.object chart) rows = .ok (some next) ∧
      repaired settings (.object next) rows' = .ok (some next) ∧
        (next = chart ↔ Settled chart) := by
  rw [repaired_of_le hlevels]
  rcases exists_repaired h with hkpi | ⟨series, hrepaired, hnumbered⟩
  · have hkept : ∀ rows, mended settings chart rows = .ok (some chart) := mended_of_kpi hkpi settings
    exact ⟨chart, hkept rows, repaired_of_le hlevels rows' ▸ hkept rows', fun _ => Or.inl hkpi,
      fun _ => rfl⟩
  -- a copy leaves room for the charts that the application makes, so for the next chart as well
  obtain ⟨n, hn⟩ := Nat.exists_eq_add_of_le' settings.limits.eight_le_copying
  have hroom : (Datum.object chart).levels ≤ (n + 3) + 5 := by omega
  cases haxis : axisLabels? (Record.get chart "xAxis") with
  | some given =>
    have hnext := hrepaired.levels_relabeled hroom (some given)
    refine ⟨relabeled chart series (some given), hrepaired.mended_of_labels haxis settings rows,
      (repaired_of_le (by omega) rows').trans (hrepaired.mended_relabeled haxis settings rows'), ?_⟩
    rw [hrepaired.relabeled_eq_iff, hrepaired.settled_iff_of_labels haxis]
  | none =>
    have hnext := levels_withAxisLabels (n := n + 5) hroom (labelsOf series [])
    refine ⟨withAxisLabels (labelsOf series []) chart,
      hrepaired.mended_of_none haxis settings rows, (repaired_of_le (by omega) rows').trans
        (hrepaired.mended_withAxisLabels haxis (hnumbered haxis) settings rows'), ?_⟩
    rw [hrepaired.settled_iff_of_none haxis]
    constructor
    · intro hsame
      by_contra hlabels
      have hgiven := axisLabels?_withAxisLabels haxis hlabels
      rw [hsame, haxis] at hgiven
      cases hgiven
    · intro hlabels
      rw [hlabels, withAxisLabels_nil]

/-- A pie beside bars, each with labels of its own. -/
def shares : Datum :=
  .object [("series", .list
    [.object [("type", .text "pie"),
      ("data", .list [.object [("name", .text "Rome"), ("value", .float 3.0)]])],
     .object [("type", .text "bar"),
      ("data", .list [.object [("name", .text "Q1"), ("value", .float 2.0)]])]])]

/-- The shares with the label of the bar on the axis and a name for the slice. -/
def repairedShares (slice : String) : Record :=
  [("series", .list
    [.object [("type", .text "pie"),
      ("data", .list [.object [("name", .text slice), ("value", .float 3.0)]]),
      ("name", .text "Series 1")],
     .object [("type", .text "bar"), ("data", .list [.float 2.0]), ("name", .text "Series 2")]]),
   ("xAxis", .object [("data", .list [.text "Q1"])])]

theorem repaired_shares : repaired {} shares .null = .ok (some (repairedShares "Rome")) := by
  unfold shares repairedShares
  rfl

theorem repaired_repaired_shares :
    repaired {} shares .null = .ok (some (repairedShares "Rome")) ∧
      ∃ next, repaired {} (.object (repairedShares "Rome")) .null = .ok (some next) ∧
        repaired {} (.object next) .null = .ok (some next) ∧
          (next = repairedShares "Rome" ↔ Settled (repairedShares "Rome")) :=
  ⟨repaired_shares, repaired_repaired repaired_shares (by decide) .null .null⟩

/-- The slice of Rome takes the label of the bar. -/
theorem not_repaired_same : ¬ ∀ settings raw rows chart,
    repaired settings raw .null = .ok (some chart) →
      (Datum.object chart).levels ≤ settings.limits.copying →
        repaired settings (.object chart) rows = .ok (some chart) := by
  intro hsame
  have hagain : repaired {} (.object (repairedShares "Rome")) .null =
      .ok (some (repairedShares "Q1")) := by
    unfold repairedShares
    rfl
  have heq := hagain.symm.trans (hsame {} shares .null _ repaired_shares (by decide))
  simp [repairedShares] at heq

end ChartBoard.Chart
