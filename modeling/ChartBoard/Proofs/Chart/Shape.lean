import ChartBoard.Chart.Finish
import ChartBoard.Proofs.Chart.Plot
import ChartBoard.Proofs.Datum.Levels

/-!
# The shape of charts

What holds of the description of a chart from the moment it is made of rows.  Bars and lines have as
many points in every series as labels on the X axis, and their legend lists the names of the series;
the rows of a radar chart have as many values as there are indicators.

* `Shaped` says that of a description.
* `Plot.Suits.shaped` says that the description of an aligned plot has the shape.
* `Shaped.themed`, `Shaped.renamed` and `Shaped.withLegend` say that the stages of finishing a chart
  keep the shape; `Shaped.dressed` puts them together.
-/

namespace ChartBoard.Chart

/-- An object of a kind. -/
def IsOf (kind : String) (v : Datum) : Prop :=
  ∃ members, v = .object members ∧ Record.get members "type" = .text kind

/-- A series of a kind with a number of points. -/
def IsSerie (kind : String) (size : Nat) (v : Datum) : Prop :=
  ∃ members points, v = .object members ∧ Record.get members "type" = .text kind ∧
    Record.get members "data" = .list points ∧ points.length = size

/-- A row of a radar chart with a number of values. -/
def IsRow (size : Nat) (v : Datum) : Prop :=
  ∃ values, v.get "value" = .list values ∧ values.length = size

/-- A legend that lists names. -/
def Lists (legend : Datum) (names : List Datum) : Prop :=
  ∃ members, legend = .object members ∧ Record.get members "data" = .list names

/-- A chart of a kind with its points in line with its labels. -/
inductive Shaped (chart : Record) : (kind : String) → Prop
  | axis {kind : String} {axis : Record} {labels series : List Datum}
      (hkind : kind = "bar" ∨ kind = "line")
      (hxAxis : Record.get chart "xAxis" = .object axis)
      (hlabels : Record.get axis "data" = .list labels)
      (hseries : Record.get chart "series" = .list series)
      (haligned : ∀ v ∈ series, IsSerie kind labels.length v)
      (hlegend : Lists (Record.get chart "legend") (series.map (·.get "name"))) : Shaped chart kind
  | pie {first : Record} (hseries : Record.get chart "series" = .list [.object first])
      (htype : Record.get first "type" = .text "pie") : Shaped chart "pie"
  | radar {radar first : Record} {indicators rows : List Datum}
      (hxAxis : Record.get chart "xAxis" = .null)
      (hradar : Record.get chart "radar" = .object radar)
      (hindicators : Record.get radar "indicator" = .list indicators)
      (hseries : Record.get chart "series" = .list [.object first])
      (htype : Record.get first "type" = .text "radar")
      (hrows : Record.get first "data" = .list rows)
      (haligned : ∀ row ∈ rows, IsRow indicators.length row) : Shaped chart "radar"
  | scatter {axis : Record} {series : List Datum}
      (hxAxis : Record.get chart "xAxis" = .object axis)
      (hlabels : Record.get axis "data" = .null)
      (hseries : Record.get chart "series" = .list series)
      (hclouds : ∀ v ∈ series, IsOf "scatter" v) : Shaped chart "scatter"

variable {chart chart' : Record} {kind : String}

/-- The shape is that of four members; of the legend, only the names in it count. -/
theorem Shaped.congr (h : Shaped chart kind)
    (hxAxis : Record.get chart' "xAxis" = Record.get chart "xAxis")
    (hradar : Record.get chart' "radar" = Record.get chart "radar")
    (hseries : Record.get chart' "series" = Record.get chart "series")
    (hlegend : ∀ names, Lists (Record.get chart "legend") names →
      Lists (Record.get chart' "legend") names) : Shaped chart' kind := by
  cases h with
  | axis hkind hx hlabels hs haligned hl =>
    exact .axis hkind (hxAxis.trans hx) hlabels (hseries.trans hs) haligned (hlegend _ hl)
  | pie hs htype => exact .pie (hseries.trans hs) htype
  | radar hx hr hindicators hs htype hrows haligned =>
    exact .radar (hxAxis.trans hx) (hradar.trans hr) hindicators (hseries.trans hs) htype hrows
      haligned
  | scatter hx hlabels hs hclouds =>
    exact .scatter (hxAxis.trans hx) hlabels (hseries.trans hs) hclouds

/-- The series of a chart are objects of its kind. -/
theorem Shaped.series_isOf (h : Shaped chart kind) :
    ∃ series, Record.get chart "series" = .list series ∧ ∀ v ∈ series, IsOf kind v := by
  cases h with
  | @axis _ _ _ series _ _ _ hs haligned =>
    refine ⟨series, hs, fun v hv => ?_⟩
    obtain ⟨members, -, rfl, htype, -⟩ := haligned v hv
    exact ⟨members, rfl, htype⟩
  | @pie first hs htype =>
    refine ⟨[.object first], hs, fun v hv => ?_⟩
    obtain rfl := List.mem_singleton.mp hv
    exact ⟨first, rfl, htype⟩
  | @radar _ first _ _ _ _ _ hs htype =>
    refine ⟨[.object first], hs, fun v hv => ?_⟩
    obtain rfl := List.mem_singleton.mp hv
    exact ⟨first, rfl, htype⟩
  | @scatter _ series _ _ hs hclouds => exact ⟨series, hs, hclouds⟩

/-- The legend of bars and lines lists the names of the series, in order. -/
theorem Shaped.legend_names (h : Shaped chart kind) (hkind : kind = "bar" ∨ kind = "line") :
    ∃ series, Record.get chart "series" = .list series ∧
      Lists (Record.get chart "legend") (series.map (·.get "name")) := by
  cases h with
  | axis _ _ _ hs _ hl => exact ⟨_, hs, hl⟩
  | pie => simp at hkind
  | radar => simp at hkind
  | scatter => simp at hkind

theorem Shaped.kind_mem (h : Shaped chart kind) :
    kind ∈ ["bar", "line", "pie", "radar", "scatter"] := by
  cases h with
  | axis hkind => rcases hkind with rfl | rfl <;> simp
  | pie => simp
  | radar => simp
  | scatter => simp

/-! ## Described plots -/

theorem isSerie_toDatum (s : Series) : IsSerie kind s.amounts.length (s.toDatum kind) :=
  ⟨_, _, rfl, by simp, by simp; rfl, by simp⟩

theorem isRow_shapeDatum (shape : String × List Float) :
    IsRow shape.2.length (shapeDatum shape) :=
  ⟨shape.2.map .float, by simp [shapeDatum], by simp⟩

theorem get_name_toDatum (s : Series) : (s.toDatum kind).get "name" = s.name := by
  simp [Series.toDatum]

/-- The description of an aligned plot has the shape of its kind. -/
theorem Plot.Suits.shaped {p : Plot} (hkind : kind ∈ ["bar", "line", "pie", "scatter", "radar"])
    (h : p.Suits kind) (title : Datum) : Shaped (Spec.toRecord ⟨title, p⟩) kind := by
  unfold Spec.toRecord
  cases h with
  | @axis categories xName yName series hpie hradar hscatter haligned =>
    have hbars : kind = "bar" ∨ kind = "line" := by
      simpa [hpie, hradar, hscatter] using hkind
    refine .axis hbars (by simp [Plot.toRecord]; rfl) (by simp [Datum.texts]; rfl)
      (by simp [Plot.toRecord]; rfl) ?_ ⟨_, by simp [Plot.toRecord]; rfl, ?_⟩
    · intro v hv
      obtain ⟨s, hs, rfl⟩ := List.mem_map.mp hv
      rw [List.length_map, ← haligned s hs]
      exact isSerie_toDatum s
    · rw [List.map_map]
      have hnames : (fun v : Datum => v.get "name") ∘ Series.toDatum kind = (·.name) :=
        funext get_name_toDatum
      rw [hnames]
      simp
  | pie hpie =>
    subst hpie
    exact .pie (by simp [Plot.toRecord]; rfl) (by simp)
  | @radar indicators shapes hradar haligned =>
    subst hradar
    refine .radar (by simp [Plot.toRecord]; rfl) (by simp [Plot.toRecord]; rfl) (by simp; rfl)
      (by simp [Plot.toRecord]; rfl) (by simp) (by simp; rfl) ?_
    intro row hrow
    obtain ⟨shape, hshape, rfl⟩ := List.mem_map.mp hrow
    rw [List.length_map, ← haligned shape hshape]
    exact isRow_shapeDatum shape
  | scatter hscatter =>
    subst hscatter
    refine .scatter (by simp [Plot.toRecord]; rfl) (by simp; rfl) (by simp [Plot.toRecord]; rfl)
      ?_
    intro v hv
    obtain ⟨cloud, -, rfl⟩ := List.mem_map.mp hv
    exact ⟨_, rfl, by simp⟩

/-! ## Themes -/

theorem get_themed {theme : Option String} {colors : List Datum} {name : String}
    (hcolor : "color" ≠ name) (hstyle : "textStyle" ≠ name) :
    Record.get (themed theme colors chart) name = Record.get chart name := by
  unfold themed
  split
  · rw [Record.get_set, if_neg hcolor, Record.get_setIfAbsent_of_ne _ _ _ hstyle,
      Record.get_setIfAbsent_of_ne _ _ _ hcolor]
  · rw [Record.get_setIfAbsent_of_ne _ _ _ hstyle, Record.get_setIfAbsent_of_ne _ _ _ hcolor]

theorem Shaped.themed {theme : Option String} {colors : List Datum} (h : Shaped chart kind) :
    Shaped (themed theme colors chart) kind := by
  refine h.congr (get_themed (by simp) (by simp)) (get_themed (by simp) (by simp))
    (get_themed (by simp) (by simp)) fun names hnames => ?_
  have hlegend : Record.get (Chart.themed theme colors chart) "legend" =
      Record.get chart "legend" := get_themed (by simp) (by simp)
  rwa [hlegend]

/-! ## New names -/

section Renamed

variable {names : Record}

theorem get_renamed_of_ne {name : String} (hseries : "series" ≠ name)
    (hlegend : "legend" ≠ name) :
    Record.get (renamed names chart) name = Record.get chart name := by
  have hnamed : ∀ v, Record.get (Record.set chart "series" v) name = Record.get chart name :=
    fun v => by rw [Record.get_set, if_neg hseries]
  unfold renamed
  extract_lets named
  have hget : Record.get named name = Record.get chart name := by
    unfold named
    split
    · exact hnamed _
    · rfl
  split
  · rw [Record.get_set, if_neg hlegend, hget]
  · exact hget

theorem get_renamed_series {series : List Datum}
    (hseries : Record.get chart "series" = .list series) :
    Record.get (renamed names chart) "series" = .list (series.map (renamedSeries names)) := by
  unfold renamed
  rw [hseries]
  extract_lets named
  have hget : Record.get named "series" = .list (series.map (renamedSeries names)) := by
    simp [named]
  split
  · simp [hget]
  · exact hget

theorem get_renamed_legend {legend : Record}
    (hlegend : Record.get chart "legend" = .object legend) :
    Record.get (renamed names chart) "legend" = .object (renamedLegend names legend) := by
  unfold renamed
  extract_lets named
  have hget : Record.get named "legend" = .object legend := by
    unfold named
    split
    · simp [hlegend]
    · exact hlegend
  simp [hget]

theorem Lists.renamed {legend : Record} {entries : List Datum}
    (h : Lists (.object legend) entries) :
    Lists (.object (renamedLegend names legend)) (entries.map (renamedEntry names)) := by
  obtain ⟨members, hmembers, hentries⟩ := h
  obtain rfl := Datum.object.inj hmembers
  exact ⟨_, rfl, by simp [renamedLegend, hentries]⟩

theorem renamedSeries_object (names members : Record) :
    ∃ members', renamedSeries names (.object members) = .object members' ∧
      Record.get members' "type" = Record.get members "type" ∧
      Record.get members' "data" = Record.get members "data" := by
  simp only [renamedSeries]
  cases newName? names (Record.get members "name") with
  | none => exact ⟨members, rfl, rfl, rfl⟩
  | some new =>
    by_cases hnew : new.truthy = true
    · exact ⟨Record.set members "name" new, if_pos hnew, by simp, by simp⟩
    · exact ⟨members, if_neg hnew, rfl, rfl⟩

theorem IsSerie.renamed {size : Nat} {v : Datum} (h : IsSerie kind size v) :
    IsSerie kind size (renamedSeries names v) := by
  obtain ⟨members, points, rfl, htype, hpoints, hsize⟩ := h
  obtain ⟨members', hmembers', htype', hdata'⟩ := renamedSeries_object names members
  exact ⟨members', points, hmembers', htype'.trans htype, hdata'.trans hpoints, hsize⟩

/-- A series takes the name that its entry in the legend takes, as no new name is empty. -/
theorem get_name_renamedSeries (hnames : ∀ v new, newName? names v = some new → new.truthy = true)
    (members : Record) : (renamedSeries names (.object members)).get "name" =
      renamedEntry names (Record.get members "name") := by
  simp only [renamedSeries, renamedEntry]
  cases hnew : newName? names (Record.get members "name") with
  | none => rfl
  | some new =>
    have hset : Datum.get (.object (Record.set members "name" new)) "name" = new := by
      simp
    simp only [hnames _ _ hnew, if_true, hset, Option.getD_some]

theorem Shaped.renamed (hnames : ∀ v new, newName? names v = some new → new.truthy = true)
    (h : Shaped chart kind) : Shaped (renamed names chart) kind := by
  have hxAxis : Record.get (Chart.renamed names chart) "xAxis" = Record.get chart "xAxis" :=
    get_renamed_of_ne (by simp) (by simp)
  have hradar : Record.get (Chart.renamed names chart) "radar" = Record.get chart "radar" :=
    get_renamed_of_ne (by simp) (by simp)
  cases h with
  | @axis _ axis labels series hkind hx hlabels hs haligned hl =>
    obtain ⟨legend, hlegend, hentries⟩ := hl
    refine .axis hkind (hxAxis.trans hx) hlabels (get_renamed_series hs) ?_ ?_
    · intro v hv
      obtain ⟨serie, hserie, rfl⟩ := List.mem_map.mp hv
      exact (haligned serie hserie).renamed
    · have hmap : (series.map (·.get "name")).map (renamedEntry names) =
          (series.map (renamedSeries names)).map (·.get "name") := by
        rw [List.map_map, List.map_map]
        refine List.map_congr_left fun serie hserie => ?_
        obtain ⟨members, -, rfl, -⟩ := haligned serie hserie
        exact (get_name_renamedSeries hnames members).symm
      rw [get_renamed_legend hlegend, ← hmap]
      exact Lists.renamed ⟨legend, rfl, hentries⟩
  | @pie first hs htype =>
    obtain ⟨first', hfirst', htype', -⟩ := renamedSeries_object names first
    refine .pie ?_ (htype'.trans htype)
    rw [get_renamed_series hs, List.map_cons, hfirst', List.map_nil]
  | @radar radar first indicators rows hx hr hindicators hs htype hrows haligned =>
    obtain ⟨first', hfirst', htype', hdata'⟩ := renamedSeries_object names first
    refine .radar (hxAxis.trans hx) (hradar.trans hr) hindicators ?_ (htype'.trans htype)
      (hdata'.trans hrows) haligned
    rw [get_renamed_series hs, List.map_cons, hfirst', List.map_nil]
  | scatter hx hlabels hs hclouds =>
    refine .scatter (hxAxis.trans hx) hlabels (get_renamed_series hs) ?_
    intro v hv
    obtain ⟨cloud, hcloud, rfl⟩ := List.mem_map.mp hv
    obtain ⟨members, rfl, htype⟩ := hclouds cloud hcloud
    obtain ⟨members', hmembers', htype', -⟩ := renamedSeries_object names members
    exact ⟨members', hmembers', htype'.trans htype⟩

end Renamed

/-! ## Finished charts -/

theorem Lists.withShow {legend shown : Datum} {entries : List Datum} (h : Lists legend entries) :
    Lists (.object (Record.set legend.members "show" shown)) entries := by
  obtain ⟨members, rfl, hentries⟩ := h
  refine ⟨_, rfl, ?_⟩
  simpa [Datum.members, Datum.asRecord?] using hentries

theorem get_withLegend_of_ne {shown : Datum} {name : String} (hlegend : "legend" ≠ name) :
    Record.get (withLegend shown chart) name = Record.get chart name := by
  rw [withLegend, Record.get_set, if_neg hlegend]

theorem Shaped.withLegend {shown : Datum} (h : Shaped chart kind) :
    Shaped (withLegend shown chart) kind := by
  refine h.congr (get_withLegend_of_ne (by simp)) (get_withLegend_of_ne (by simp))
    (get_withLegend_of_ne (by simp)) ?_
  intro names hnames
  have hlegend : Record.get (Chart.withLegend shown chart) "legend" =
      .object (Record.set (Record.get chart "legend").members "show" shown) := by
    simp [Chart.withLegend]
  rw [hlegend]
  exact hnames.withShow

theorem finished_eq_ok {limits : Limits} {theme : Option String} {colors : List Datum}
    {names : Record} {showLegend : Datum} {made : Record} :
    finished limits theme colors names showLegend chart = .ok made ↔
      (Datum.object chart).levels ≤ limits.copying ∧
        dressed theme colors names showLegend chart = made := by
  unfold finished
  simp only [Result.bind_eq_ok, Record.copied_eq_ok, Result.pure_eq_ok]
  constructor
  · rintro ⟨copy, ⟨hlevels, rfl⟩, hmade⟩
    exact ⟨hlevels, hmade⟩
  · rintro ⟨hlevels, hmade⟩
    exact ⟨chart, ⟨hlevels, rfl⟩, hmade⟩

/-- The members that change when a chart is finished. -/
def finishedMembers : List String := ["series", "legend", "color", "textStyle"]

@[simp] theorem mem_finishedMembers {name : String} : name ∈ finishedMembers ↔
    name = "series" ∨ name = "legend" ∨ name = "color" ∨ name = "textStyle" := by
  simp [finishedMembers]

/-- Finishing a chart touches its colours, the style of its texts, its series and its legend. -/
theorem get_dressed {theme : Option String} {colors : List Datum} {names : Record}
    {showLegend : Datum} {name : String} (hname : name ∉ finishedMembers) :
    Record.get (dressed theme colors names showLegend chart) name = Record.get chart name := by
  simp only [mem_finishedMembers, not_or] at hname
  obtain ⟨hseries, hlegend, hcolor, hstyle⟩ := hname
  have hnamed : Record.get (renamed names (themed theme colors chart)) name =
      Record.get chart name :=
    (get_renamed_of_ne (Ne.symm hseries) (Ne.symm hlegend)).trans
      (get_themed (Ne.symm hcolor) (Ne.symm hstyle))
  unfold dressed
  extract_lets named
  split
  · exact hnamed
  · exact (get_withLegend_of_ne (Ne.symm hlegend)).trans hnamed

theorem get_dressed_series {theme : Option String} {colors : List Datum} {names : Record}
    {showLegend : Datum} {series : List Datum}
    (hseries : Record.get chart "series" = .list series) :
    Record.get (dressed theme colors names showLegend chart) "series" =
      .list (series.map (renamedSeries names)) := by
  have hnamed : Record.get (renamed names (themed theme colors chart)) "series" =
      .list (series.map (renamedSeries names)) :=
    get_renamed_series ((get_themed (by simp) (by simp)).trans hseries)
  unfold dressed
  extract_lets named
  split
  · exact hnamed
  · exact (get_withLegend_of_ne (by simp)).trans hnamed

/-- Finishing a chart keeps its shape, when no new name is empty. -/
theorem Shaped.dressed {theme : Option String} {colors : List Datum} {names : Record}
    {showLegend : Datum} (hnames : ∀ v new, newName? names v = some new → new.truthy = true)
    (h : Shaped chart kind) : Shaped (dressed theme colors names showLegend chart) kind := by
  unfold Chart.dressed
  split
  · exact h.themed.renamed hnames
  · exact (h.themed.renamed hnames).withLegend

end ChartBoard.Chart
