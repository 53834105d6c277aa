import ChartBoard.Proofs.Chart.Kept
import ChartBoard.Proofs.Figure.Lossless

/-!
# Figures that a repair keeps

A chart that is made of rows is repaired before it is shown, like any other.  Its series only get
their kind once more, but a pie is taken apart into names and amounts and made again, with labels
on an X axis that it had not.  The figure stays the same.

* `ofChart_keptChart` says so of charts whose points a repair leaves alone.
* `Same` says of two figures that they show the same, `kept_pie` says so of a pie and its repair.
* `shows_same` is the result for every chart that is made of rows.
-/

namespace ChartBoard.Figure

open Chart (Amount Describes IsOf Plot Request Spec isDrawable keptChart keptSerie renamedSeries
  slicedChart)
open Result

/-! ## Charts that keep their points -/

section Kept

variable {r : Record} {series : List Datum} {theme : Theme}

theorem serieName_keptSerie (r : Record) (v : Datum) (position : Nat) :
    serieName (keptSerie r v position) position = serieName v position :=
  serieName_of_label (by rw [Chart.get_name_keptSerie]; rfl) (serieName_ne_empty v position)
    position

theorem itemsIn_keptSerie (r : Record) (v : Datum) (position : Nat) :
    itemsIn (keptSerie r v position) "data" = itemsIn v "data" := by
  rw [itemsIn, Chart.get_data_keptSerie]
  rfl

theorem seriesOf_keptChart : seriesOf (.object (keptChart r series)) =
    series.zipIdx.map fun p => keptSerie r p.1 p.2 := by
  rw [seriesOf, Datum.get_object, keptChart, Record.get_set, if_pos rfl]
  exact List.filter_eq_self.mpr (List.forall_mem_map.mpr fun _ _ => rfl)

theorem framed_keptChart (kind : Kind) (content : Content) (fallback : Bool) :
    framed (.object (keptChart r series)) theme kind content fallback =
      framed (.object r) theme kind content fallback :=
  framed_congr (Chart.get_keptChart_of_ne (by simp)) (Chart.get_keptChart_of_ne (by simp))
    (Chart.get_keptChart_of_ne (by simp)) (Chart.get_keptChart_of_ne (by simp)) kind content
    fallback

section

variable (hseries : Record.get r "series" = .list series)
  (hobjects : ∀ v ∈ series, v.isObject = true)

include hseries hobjects

theorem axisOf_keptChart (curved : Bool) :
    axisOf (.object (keptChart r series)) curved theme = axisOf (.object r) curved theme := by
  have hlines : linesOf "data" (series.zipIdx.map fun p => keptSerie r p.1 p.2) =
      linesOf "data" series :=
    mapM_zipIdx_map_zipIdx fun v _ i => by
      simp only [lineOf, serieName_keptSerie, itemsIn_keptSerie]
  rw [axisOf_eq, axisOf_eq, seriesOf_keptChart, seriesOf_of_objects hseries hobjects, hlines]
  simp only [framed_keptChart, axisTitle, Datum.get_object, Chart.get_keptChart_of_ne, ne_eq,
    String.reduceEq, not_false_eq_true]

theorem scatterOf_keptChart :
    scatterOf (.object (keptChart r series)) theme = scatterOf (.object r) theme := by
  have hclouds (labels : List Datum) :
      cloudsOf labels (series.zipIdx.map fun p => keptSerie r p.1 p.2) = cloudsOf labels series :=
    mapM_zipIdx_map_zipIdx fun v _ i => by
      simp only [serieName_keptSerie, itemsIn_keptSerie]
  rw [scatterOf_eq, scatterOf_eq, seriesOf_keptChart, seriesOf_of_objects hseries hobjects, hclouds]
  simp only [framed_keptChart, axisTitle, Datum.get_object, Chart.get_keptChart_of_ne, ne_eq,
    String.reduceEq, not_false_eq_true]

theorem firstItems_keptChart :
    firstItems (.object (keptChart r series)) = firstItems (.object r) := by
  rw [firstItems, firstItems, seriesOf_keptChart, seriesOf_of_objects hseries hobjects]
  cases series with
  | nil => rfl
  | cons v rest =>
    rw [List.zipIdx_cons, List.map_cons, List.head?_cons, List.head?_cons, Option.map_some,
      Option.map_some, itemsIn_keptSerie]

theorem radarOf_keptChart :
    radarOf (.object (keptChart r series)) theme = radarOf (.object r) theme := by
  have hrows := firstItems_keptChart hseries hobjects
  unfold firstItems at hrows
  rw [radarOf, radarOf, hrows]
  simp only [framed_keptChart, Datum.get_object, Chart.get_keptChart_of_ne, ne_eq,
    String.reduceEq, not_false_eq_true]

/-- A chart that is no pie is drawn as before when its series have got a kind and a name. -/
theorem ofChart_keptChart (hkpi : Record.get r "kpi" = .null)
    (hmark : Record.get r emptyMark = .null) (hdrawable : isDrawable (.object r) = true)
    (hkind : kindOf (.object (keptChart r series)) = kindOf (.object r))
    (hpie : kindOf (.object r) ≠ .pie) :
    ofChart (.object (keptChart r series)) theme = ofChart (.object r) theme := by
  have hkept : Record.get (keptChart r series) "series" =
      .list (series.zipIdx.map fun p => keptSerie r p.1 p.2) := by
    simp [keptChart]
  have hkpiKept : Record.get (keptChart r series) "kpi" = .null :=
    (Chart.get_keptChart_of_ne (by simp)).trans hkpi
  have hmarkKept : Record.get (keptChart r series) emptyMark = .null :=
    (Chart.get_keptChart_of_ne (by simp [emptyMark])).trans hmark
  have hdrawn : drawn (.object (keptChart r series)) theme = drawn (.object r) theme := by
    unfold drawn
    rw [hkind]
    cases hk : kindOf (.object r) with
    | pie => exact absurd hk hpie
    | radar => exact radarOf_keptChart hseries hobjects
    | scatter => exact scatterOf_keptChart hseries hobjects
    | line => exact axisOf_keptChart hseries hobjects true
    | bar => exact axisOf_keptChart hseries hobjects false
  rw [ofChart_eq_drawn hkept (List.forall_mem_map.mpr fun _ _ => rfl) hkpiKept hmarkKept
      ((Chart.isDrawable_keptChart hseries).trans hdrawable), hdrawn,
    ofChart_eq_drawn hseries hobjects hkpi hmark hdrawable]

end

end Kept

/-! ## Kinds of described charts -/

/-- Series without a kind are repaired to be bars. -/
theorem serieKind_of_type {chart serie : Record} {kind : String}
    (hchart : Record.get chart "type" = .null) (htype : Record.get serie "type" = .text kind) :
    Chart.serieKind chart serie = Text.lower (if kind = "" then "bar" else kind) := by
  have hlabel : ∀ s : String, (Datum.text s).label = s := fun _ => rfl
  rw [Chart.serieKind, htype, hchart]
  by_cases hkind : kind = ""
  · subst hkind
    rfl
  · have htruthy : (Datum.text kind).truthy = true := by simpa [Datum.truthy] using hkind
    simp only [Datum.orElse, if_pos htruthy, if_neg hkind, hlabel]

theorem ofName_lower_repaired (kind : String) :
    Kind.ofName (Text.lower (Text.lower (if kind = "" then "bar" else kind))) =
      .ofName (Text.lower kind) := by
  rw [Text.lower_lower]
  by_cases hkind : kind = ""
  · subst hkind
    decide
  · rw [if_neg hkind]

section Described

variable {spec : Spec} {names chart : Record}

variable (h : Describes spec names chart)

include h

theorem plain_described : Chart.Plain chart where
  not_kpi := by
    rw [get_kpi_described h]
    rfl
  not_hasDatasets := by
    have hdata : Record.get chart "data" = .null :=
      h.get_of_not_mem (by simp)
    rw [Chart.hasDatasets, hdata]
    rfl

theorem serieKind_described {v : Datum} {kind : String} (hv : IsOf kind v) :
    Chart.serieKind chart (renamedSeries names v).members =
      Text.lower (if kind = "" then "bar" else kind) :=
  serieKind_of_type (h.get_of_not_mem (by simp)) (get_type_renamed hv)

theorem keepsPoints_described {v : Datum} {kind : String} (hv : IsOf kind v)
    (hpie : Kind.ofName (Text.lower kind) ≠ .pie)
    (hpoints : kind = "radar" ∨ Chart.carriesLabels (itemsIn v "data") = false) :
    Chart.KeepsPoints chart (renamedSeries names v) := by
  have hdata : ((renamedSeries names v).get "data").asList?.getD [] = itemsIn v "data" :=
    itemsIn_renamedSeries v
  rw [Chart.KeepsPoints, serieKind_described h hv, hdata]
  refine .others (hpoints.imp ?_ fun hplain => ⟨hplain, fun hrepaired => ?_⟩)
  · rintro rfl
    decide
  · have hofName := ofName_lower_repaired kind
    rw [hrepaired] at hofName
    exact absurd (hofName.symm.trans (by decide)) hpie

/-- A description that is no pie is drawn as before once it is repaired, as its points carry no
labels or are the rows of a radar chart. -/
theorem kept_described (hpoint : spec.plot.HasPoint) (hpie : kindOf (.object chart) ≠ .pie)
    (hpoints : ∀ v ∈ spec.plot.described.2, spec.plot.described.1 = "radar" ∨
      Chart.carriesLabels (itemsIn v "data") = false)
    (settings : Settings) (rows : Datum) (theme : Theme) :
    ∃ next, Chart.mended settings chart rows = .ok (some next) ∧
      ofChart (.object next) theme = ofChart (.object chart) theme := by
  have hof := Chart.isOf_of_mem_described spec.plot
  have hdrawable := (isDrawable_described h).mpr hpoint
  have hkindOf := kindOf_described h hpoint
  have hkeeps : ∀ v ∈ spec.plot.described.2.map (renamedSeries names), Chart.KeepsPoints chart v :=
    List.forall_mem_map.mpr fun v hv =>
      keepsPoints_described h (hof v hv) (hkindOf ▸ hpie) (hpoints v hv)
  have hkept : kindOf (.object (keptChart chart
      (spec.plot.described.2.map (renamedSeries names)))) = kindOf (.object chart) := by
    have hchart : (Datum.object (keptChart chart
        (spec.plot.described.2.map (renamedSeries names)))).get "chart" = .null :=
      (Chart.get_keptChart_of_ne (by simp)).trans (get_chart_described h)
    obtain ⟨first, rest, hseries⟩ := List.exists_cons_of_ne_nil (described_ne_nil hpoint)
    rw [hseries] at hchart hof ⊢
    rw [hkindOf, kindOf_of_first seriesOf_keptChart (Chart.get_type_keptSerie _ _ _) hchart,
      serieKind_described h (hof first List.mem_cons_self), ofName_lower_repaired]
  exact ⟨_, Chart.mended_of_keeps (plain_described h) h.get_series hkeeps hdrawable settings rows,
    ofChart_keptChart h.get_series (isObject_described names spec.plot) (get_kpi_described h)
      (get_emptyMark_described h) hdrawable hkept hpie⟩

end Described

/-! ## Figures that show the same -/

/-- Content that shows the same: the numbers of a pie may differ in the sign of a zero. -/
inductive Content.Same : Content → Content → Prop
  | refl (c : Content) : Same c c
  | pie {labels : List String} {values values' : List Amount}
      (h : List.Forall₂ (Option.Rel SameNumber) values values') :
      Same (.pie labels values) (.pie labels values')

/-- Figures that look alike and show the same. -/
structure Same (f g : Figure) : Prop where
  content : f.content.Same g.content
  title : g.title = f.title
  colors : g.colors = f.colors
  look : g.look = f.look
  fallback : g.fallback = f.fallback

theorem Same.refl (f : Figure) : f.Same f := ⟨.refl f.content, rfl, rfl, rfl, rfl⟩

section Pie

variable {title name : Datum} {slices : List Chart.Slice} {names chart : Record}

/-- The numbers of slices are the same once these are tidied up. -/
theorem exists_sameNumbers (slices : List Chart.Slice) : ∃ xs ys,
    numbersOf (slices.map (·.amount.toDatum)) = .ok xs ∧
      numbersOf ((slices.map Chart.Slice.tidied).map (·.amount.toDatum)) = .ok ys ∧
        List.Forall₂ (Option.Rel SameNumber) (xs.map some) (ys.map some) := by
  induction slices with
  | nil => exact ⟨[], [], rfl, rfl, .nil⟩
  | cons s rest ih =>
    obtain ⟨xs, ys, hxs, hys, hsame⟩ := ih
    obtain ⟨x, y, hx, hy, hxy⟩ := s.amount.exists_sameNumber
    have hcons {v : Datum} {vs : List Datum} {z : Float} {zs : List Float} (hv : v.number = .ok z)
        (hvs : numbersOf vs = .ok zs) : numbersOf (v :: vs) = .ok (z :: zs) := by
      unfold numbersOf at hvs ⊢
      rw [List.mapM_cons, hv, hvs]
      rfl
    exact ⟨x :: xs, y :: ys, hcons hx hxs, hcons hy hys, .cons (.some hxy) hsame⟩

/-- A pie of slices is drawn from them. -/
theorem drawn_of_slices {chart : Datum} {xs : List Float} (theme : Theme)
    (hkind : kindOf chart = .pie) (hitems : firstItems chart = slices.map Chart.Slice.toDatum)
    (hne : slices ≠ []) (hnumbers : numbersOf (slices.map (·.amount.toDatum)) = .ok xs) :
    drawn chart theme =
      .ok (framed chart theme .pie (.pie (slices.map (·.name)) (xs.map some)) false) := by
  unfold drawn
  rw [hkind]
  exact pieOf_of_slices theme hitems hne hnumbers

theorem ofChart_slicedChart (v : Datum) {ys : List Float} (theme : Theme) (hne : slices ≠ [])
    (hkpi : Record.get chart "kpi" = .null) (hmark : Record.get chart emptyMark = .null)
    (hnumbers : numbersOf ((slices.map Chart.Slice.tidied).map (·.amount.toDatum)) = .ok ys) :
    ofChart (.object (slicedChart chart v slices)) theme = .ok (framed (.object chart) theme .pie
      (.pie (slices.map (·.name)) (ys.map some)) false) := by
  have hseries := Chart.get_series_slicedChart chart v slices
  have hobjects : ∀ w ∈ [Chart.slicedSerie v (slices.map Chart.Slice.tidied)],
      w.isObject = true := List.forall_mem_singleton.mpr rfl
  have hlisted := seriesOf_of_objects hseries hobjects
  have hkindOf : kindOf (.object (slicedChart chart v slices)) = .pie :=
    kindOf_of_type (by decide) hlisted (Chart.get_type_slicedSerie v _)
  have hitems : firstItems (.object (slicedChart chart v slices)) =
      (slices.map Chart.Slice.tidied).map Chart.Slice.toDatum := by
    rw [firstItems, hlisted, List.head?_cons, Option.map_some, Option.getD_some, itemsIn,
      Chart.get_data_slicedSerie]
    rfl
  have hnames : (slices.map Chart.Slice.tidied).map (·.name) = slices.map (·.name) := by
    rw [List.map_map]
    rfl
  have hkept {name : String} (hxAxis : "xAxis" ≠ name) (hseries : "series" ≠ name) :
      Record.get (slicedChart chart v slices) name = Record.get chart name :=
    Chart.get_slicedChart_of_ne hxAxis hseries
  rw [ofChart_eq_drawn hseries hobjects ((hkept (by simp) (by simp)).trans hkpi)
      ((hkept (by simp [emptyMark]) (by simp [emptyMark])).trans hmark)
      (Chart.isDrawable_slicedChart hne),
    drawn_of_slices theme hkindOf hitems (by simpa using hne) hnumbers, hnames]
  exact congrArg Except.ok (framed_congr (hkept (by simp) (by simp)) (hkept (by simp) (by simp))
    (hkept (by simp) (by simp)) (hkept (by simp) (by simp)) _ _ _)

theorem kindOf_pie (h : Describes ⟨title, .pie name slices⟩ names chart) (hne : slices ≠ []) :
    kindOf (.object chart) = .pie := by
  have hlower : Kind.ofName (Text.lower "pie") = .pie := by decide
  exact (kindOf_described h hne).trans hlower

/-- A pie of slices with names shows the same once it is repaired. -/
theorem kept_pie (h : Describes ⟨title, .pie name slices⟩ names chart) (hne : slices ≠ [])
    (hnamed : ∀ s ∈ slices, s.name ≠ "") (settings : Settings) (rows : Datum) (theme : Theme) :
    ∃ next f g, Chart.mended settings chart rows = .ok (some next) ∧
      ofChart (.object chart) theme = .ok f ∧ ofChart (.object next) theme = .ok g ∧ f.Same g := by
  have hpie : IsOf "pie" (Chart.pieSerie name slices) :=
    Chart.isOf_of_mem_described (.pie name slices) _ (List.mem_singleton_self _)
  have hkind : Chart.serieKind chart (renamedSeries names (Chart.pieSerie name slices)).members =
      "pie" := by
    rw [serieKind_described h hpie]
    decide
  have hdata : (renamedSeries names (Chart.pieSerie name slices)).get "data" =
      .list (slices.map Chart.Slice.toDatum) := by
    rw [Chart.get_renamedSeries_of_ne _ (by simp)]
    simp [Chart.pieSerie]
  have haxis : Chart.axisLabels? (Record.get chart "xAxis") = none := by
    rw [h.get (by simp)]
    rfl
  obtain ⟨xs, ys, hxs, hys, hsame⟩ := exists_sameNumbers slices
  have hmended := Chart.mended_of_slices (plain_described h) h.get_series hkind hdata haxis hne
    hnamed settings rows
  have hf := (ofChart_described h hne theme).trans
    (drawn_of_slices theme (kindOf_pie h hne) (firstItems_pie h) hne hxs)
  have hg := ofChart_slicedChart (renamedSeries names (Chart.pieSerie name slices)) theme hne
    (get_kpi_described h) (get_emptyMark_described h) hys
  exact ⟨_, _, _, hmended, hf, hg, .pie hsame, rfl, rfl, rfl, rfl⟩

end Pie

/-! ## Charts made of rows -/

section Rows

variable {spec : Spec} {names chart : Record} {theme : Theme} {f : Figure}

/-- Points of plots that are no pies carry no labels, unless they are rows of a radar chart. -/
theorem plain_of_mem_described {plot : Plot} (hpie : ∀ name slices, plot ≠ .pie name slices) :
    ∀ v ∈ plot.described.2, plot.described.1 = "radar" ∨
      Chart.carriesLabels (itemsIn v "data") = false := by
  cases plot with
  | axis kind _ _ _ series =>
    refine List.forall_mem_map.mpr fun s _ => .inr ?_
    rw [itemsIn_toDatum]
    exact Chart.carriesLabels_amounts s.amounts
  | pie name slices => exact absurd rfl (hpie name slices)
  | radar => exact fun v _ => .inl rfl
  | scatter _ _ clouds =>
    refine List.forall_mem_map.mpr fun cloud _ => .inr ?_
    rw [itemsIn_cloudDatum]
    cases cloud.2 <;> rfl

/-- A figure that is no fallback has a point of the plot to show. -/
theorem hasPoint_of_shown (h : Describes spec names chart)
    (hf : ofChart (.object chart) theme = .ok f) (hshown : f.fallback = false) :
    spec.plot.HasPoint := by
  rcases shown_cases hf hshown with ⟨values, hbare, -⟩ | ⟨-, hdrawable, -⟩
  · cases (barePie?_of_objects h.get_series (isObject_described names spec.plot)).symm.trans hbare
  · exact (isDrawable_described h).mp hdrawable

/-- The chart of any specification, so of each that is made of rows, shows the same once it has been
repaired, with any rows to fall back on.  If it is drawn as a pie, it has to be one of slices, each
of which has a name. -/
theorem shows_same (h : Describes spec names chart) (hf : ofChart (.object chart) theme = .ok f)
    (hshown : f.fallback = false)
    (hnamed : kindOf (.object chart) = .pie →
      ∃ name slices, spec.plot = .pie name slices ∧ ∀ s ∈ slices, s.name ≠ "")
    (settings : Settings) (hlevels : (Datum.object chart).levels ≤ settings.limits.copying)
    (fallbackRows : Datum) :
    ∃ next g, Chart.repaired settings (.object chart) fallbackRows = .ok (some next) ∧
      ofChart (.object next) theme = .ok g ∧ f.Same g := by
  rw [Chart.repaired_of_le hlevels]
  have hpoint := hasPoint_of_shown h hf hshown
  obtain ⟨title, plot⟩ := spec
  by_cases hpie : kindOf (.object chart) = .pie
  · obtain ⟨name, slices, rfl, hslices⟩ := hnamed hpie
    obtain ⟨next, f', g, hnext, hf', hg, hsame⟩ :=
      kept_pie h hpoint hslices settings fallbackRows theme
    obtain rfl := Except.ok.inj (hf'.symm.trans hf)
    exact ⟨next, g, hnext, hg, hsame⟩
  · have hplot : ∀ name slices, plot ≠ .pie name slices := by
      rintro name slices rfl
      exact hpie (kindOf_pie h hpoint)
    obtain ⟨next, hnext, hg⟩ := kept_described h hpoint hpie (plain_of_mem_described hplot)
      settings fallbackRows theme
    exact ⟨next, f, hnext, hg.trans hf, .refl f⟩

end Rows

/-- Shares of cities in a total. -/
def cityShares : Request :=
  { kind := "pie", xField := "city", yFields := ["total"], titles := { chart := .text "Shares" } }

/-- Two cities, one of which has a negative zero. -/
def citySharesRows : List Record :=
  [[("city", .text "Rome"), ("total", .float 2.0)],
   [("city", .text "Oslo"), ("total", .float (-0.0))]]

/-- The shares with a slice for each city. -/
def citySharesSpec : Spec :=
  ⟨.text "Shares", .pie (.text "total") [⟨"Rome", some 2.0⟩, ⟨"Oslo", some (-0.0)⟩]⟩

theorem shows_same_cityShares : cityShares.spec citySharesRows = .ok citySharesSpec ∧
    ∃ f, ofChart (.object citySharesSpec.toRecord) {} = .ok f ∧ f.fallback = false ∧
      ∃ next g, Chart.repaired {} (.object citySharesSpec.toRecord) .null = .ok (some next) ∧
        ofChart (.object next) {} = .ok g ∧ f.Same g := by
  have hspec : cityShares.spec citySharesRows = .ok citySharesSpec := by
    unfold cityShares citySharesRows citySharesSpec
    rfl
  have hf : ofChart (.object citySharesSpec.toRecord) {} =
      .ok (framed (.object citySharesSpec.toRecord) {} .pie
        (.pie ["Rome", "Oslo"] [some 2.0, some (-0.0)]) false) := by
    rfl
  exact ⟨hspec, _, hf, rfl, shows_same .made hf rfl (fun _ => ⟨_, _, rfl, by decide⟩) {} (by decide) .null⟩

end ChartBoard.Figure
