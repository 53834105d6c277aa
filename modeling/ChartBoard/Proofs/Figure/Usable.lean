import ChartBoard.Figure.Variant
import ChartBoard.Proofs.Chart.RepairedSeries
import ChartBoard.Proofs.Figure.Selection

/-!
# Usable figures

A figure is not marked as a fallback as soon as some series of its chart has points, and before
these are read for their kind.  A radar chart then shows the rows of its first series only, and a
bare pie the labels that are listed beside its values, so that such a figure may have no data or
labels for other slices than it shows.

* `Usable` says that a figure can be worked with, `Complete` that its chart has what its kind reads.
* `usable_iff` says that the first is so exactly for the second.
* `not_usable` gives a radar chart that shows nothing.
-/

namespace ChartBoard.Figure

open Chart (Amount)
open Result

/-! ## What a figure is used for -/

/-- True of content with a data point. -/
def Content.HasPoint : Content → Prop
  | axis _ _ lines _ _ => ∃ l ∈ lines, l.values ≠ []
  | pie _ values => values ≠ []
  | radar _ lines => ∃ l ∈ lines, l.values ≠ []
  | scatter clouds _ _ => ∃ c ∈ clouds, c.points ≠ []

/-- The names of series. -/
def Content.names : Content → List String
  | axis _ _ lines _ _ => lines.map (·.name)
  | pie .. => []
  | radar _ lines => lines.map (·.name)
  | scatter clouds _ _ => clouds.map (·.name)

/-- True of a value of a pie that a click selects by its label, and that is typed as a slice under
this label. -/
def IsSlice (f : Figure) (position : Nat) (value : Amount) : Prop :=
  ∃ label slices, f.selected 0 position = some (.named label) ∧
    Variant.ofFigure f = .pie f.title.label slices ∧
      slices[position]? = some (label, value.toFloat)

/-- A figure with data, in which every slice and every series can be told by its name. -/
structure Usable (f : Figure) : Prop where
  hasPoint : f.content.HasPoint
  labelled : ∀ labels values, f.content = .pie labels values → labels.length = values.length
  isSlice : ∀ labels values, f.content = .pie labels values →
    ∀ i value, values[i]? = some value → f.IsSlice i value
  named : ∀ name ∈ f.content.names, name ≠ ""

variable {chart : Datum} {theme : Theme} {f : Figure}

theorem isSlice_of_labelled {labels : List String} {values : List Amount} {i : Nat} {value : Amount}
    (hshown : f.fallback = false) (hcontent : f.content = .pie labels values)
    (hlength : labels.length = values.length) (hvalue : values[i]? = some value) :
    f.IsSlice i value := by
  obtain ⟨hi, -⟩ := List.getElem?_eq_some_iff.mp hvalue
  have hlabel : labels[i]? = some labels[i] := List.getElem?_eq_getElem (hlength ▸ hi)
  refine ⟨labels[i], labels.zip (values.map Amount.toFloat), ?_, ?_, ?_⟩
  · exact selected_of_slice hshown (by rw [hcontent]; exact hlabel)
  · rw [Variant.ofFigure, hcontent]
  · rw [List.getElem?_zip_eq_some]
    exact ⟨hlabel, by rw [List.getElem?_map, hvalue]; rfl⟩

theorem usable_of_labelled (hshown : f.fallback = false) (hpoint : f.content.HasPoint)
    (hlabelled : ∀ labels values, f.content = .pie labels values → labels.length = values.length)
    (hnamed : ∀ name ∈ f.content.names, name ≠ "") : f.Usable where
  hasPoint := hpoint
  labelled := hlabelled
  isSlice := fun labels values hcontent _ _ hvalue =>
    isSlice_of_labelled hshown hcontent (hlabelled labels values hcontent) hvalue
  named := hnamed

/-! ## Series -/

theorem serieName_ne_empty (serie : Datum) (position : Nat) : serieName serie position ≠ "" :=
  Chart.nameOrNumber_ne_empty _ (by decide) position

section Lines

variable {member : String} {series : List Datum} {lines : List Line}

theorem name_ne_empty_of_mem_lines
    (h : series.zipIdx.mapM (fun (v, i) => lineOf member v i) = .ok lines) :
    ∀ name ∈ lines.map (·.name), name ≠ "" := by
  rw [List.forall_mem_map]
  intro l hl
  obtain ⟨⟨v, i⟩, -, hline⟩ := of_mem_of_mapM_eq_ok h hl
  obtain ⟨xs, -, hline⟩ := bind_eq_ok.mp hline
  obtain rfl := pure_eq_ok.mp hline
  exact serieName_ne_empty v i

/-- Lines have values when the series that they are made of list some. -/
theorem exists_values_iff
    (h : series.zipIdx.mapM (fun (v, i) => lineOf member v i) = .ok lines) :
    (∃ l ∈ lines, l.values ≠ []) ↔ ∃ v ∈ series, itemsIn v member ≠ [] := by
  refine (exists_mem_iff_of_mapM_zipIdx h fun v i l hl => ?_).symm
  rw [← List.length_pos_iff, ← List.length_pos_iff, length_lineOf hl]

end Lines

/-- A chart can be drawn when one of its series lists points. -/
theorem isDrawable_iff :
    Chart.isDrawable chart = true ↔ ∃ serie ∈ seriesOf chart, itemsIn serie "data" ≠ [] := by
  have hpoints (serie : Datum) : Chart.hasPoints serie = true ↔
      serie.isObject = true ∧ itemsIn serie "data" ≠ [] := by
    cases serie with
    | object members =>
      unfold Chart.hasPoints itemsIn
      cases (Datum.object members).get "data" <;> simp [Datum.isObject, Datum.asList?]
    | _ => exact iff_of_false Bool.false_ne_true fun h => Bool.false_ne_true h.1
  unfold Chart.isDrawable seriesOf
  cases chart.get "series" with
  | list series => simp [hpoints, Datum.asList?, and_assoc]
  | _ => simp [Datum.asList?]

/-! ## Content by kind -/

theorem usable_axisOf {curved : Bool} (h : axisOf chart curved theme = .ok f)
    (hdrawable : Chart.isDrawable chart = true) : f.Usable := by
  unfold axisOf at h
  extract_lets categories at h
  obtain ⟨lines, hlines, h⟩ := bind_eq_ok.mp h
  obtain rfl := pure_eq_ok.mp h
  have hpoint := (exists_values_iff hlines).mpr (isDrawable_iff.mp hdrawable)
  exact usable_of_labelled rfl hpoint nofun (name_ne_empty_of_mem_lines hlines)

theorem usable_scatterOf (h : scatterOf chart theme = .ok f)
    (hdrawable : Chart.isDrawable chart = true) : f.Usable := by
  unfold scatterOf at h
  extract_lets labels at h
  obtain ⟨clouds, hclouds, h⟩ := bind_eq_ok.mp h
  obtain rfl := pure_eq_ok.mp h
  have hpoint : ∃ c ∈ clouds, c.points ≠ [] := by
    refine (exists_mem_iff_of_mapM_zipIdx hclouds fun serie i c hc => ?_).mp
      (isDrawable_iff.mp hdrawable)
    obtain ⟨points, hpoints, hc⟩ := bind_eq_ok.mp hc
    obtain rfl := pure_eq_ok.mp hc
    rw [← List.length_pos_iff, ← List.length_pos_iff, length_of_mapM_eq_ok hpoints,
      List.length_zipIdx]
  refine usable_of_labelled rfl hpoint nofun ?_
  simp only [framed, Content.names, List.forall_mem_map]
  intro c hc
  obtain ⟨⟨serie, i⟩, -, hc⟩ := of_mem_of_mapM_eq_ok hclouds hc
  obtain ⟨points, -, hc⟩ := bind_eq_ok.mp hc
  obtain rfl := pure_eq_ok.mp hc
  exact serieName_ne_empty serie i

theorem usable_pieOf (h : pieOf chart theme = .ok f) (hshown : f.fallback = false) :
    f.Usable := by
  have haligned := aligned_pieOf h
  obtain ⟨labels, values, hcontent, hvalues⟩ :
      ∃ labels values, f.content = .pie labels values ∧ values ≠ [] := by
    unfold pieOf at h
    extract_lets series at h
    split at h
    · obtain ⟨values, hvalues, h⟩ := bind_eq_ok.mp h
      obtain rfl := pure_eq_ok.mp h
      refine ⟨_, _, rfl, ?_⟩
      rw [← List.length_pos_iff, List.length_map, length_of_mapM_eq_ok hvalues]
      simp
    · split at h
      · obtain ⟨values, hvalues, h⟩ := bind_eq_ok.mp h
        obtain rfl := pure_eq_ok.mp h
        refine ⟨_, _, rfl, ?_⟩
        rw [← List.length_pos_iff, length_of_mapM_eq_ok hvalues]
        omega
      · obtain rfl := Except.ok.inj h
        cases hshown
  refine usable_of_labelled hshown ?_ (fun labels' values' hpie => ?_) ?_
  · rwa [hcontent]
  · rwa [hpie] at haligned
  · rw [hcontent]
    exact nofun

/-- The items of the first series. -/
def firstItems (chart : Datum) : List Datum :=
  ((seriesOf chart).head?.map fun s => itemsIn s "data").getD []

theorem usable_radarOf_iff (h : radarOf chart theme = .ok f) :
    f.Usable ↔ ∃ row ∈ firstItems chart, itemsIn row "value" ≠ [] := by
  unfold radarOf at h
  extract_lets labels rows at h
  obtain ⟨lines, hlines, h⟩ := bind_eq_ok.mp h
  obtain rfl := pure_eq_ok.mp h
  have hrows : (∃ l ∈ lines, l.values ≠ []) ↔
      ∃ row ∈ firstItems chart, itemsIn row "value" ≠ [] := by
    rw [exists_values_iff hlines]
    constructor
    · rintro ⟨row, hrow, hvalues⟩
      exact ⟨row, (List.mem_filter.mp hrow).1, hvalues⟩
    · rintro ⟨row, hrow, hvalues⟩
      refine ⟨row, List.mem_filter.mpr ⟨hrow, ?_⟩, hvalues⟩
      cases row with
      | object members => rfl
      | _ => exact absurd rfl hvalues
  rw [← hrows]
  exact ⟨Usable.hasPoint, fun hpoint =>
    usable_of_labelled rfl hpoint nofun (name_ne_empty_of_mem_lines hlines)⟩

theorem usable_barePieOf_iff {values : List Datum} (hvalues : values ≠ [])
    (h : barePieOf chart values theme = .ok f) :
    f.Usable ↔ ∀ labels, chart.get "labels" = .list labels → labels.length = values.length := by
  unfold barePieOf at h
  extract_lets labels at h
  obtain ⟨numbers, hnumbers, h⟩ := bind_eq_ok.mp h
  obtain rfl := pure_eq_ok.mp h
  have hlength : (numbers.map some).length = values.length := by
    rw [List.length_map, length_of_mapM_eq_ok hnumbers]
  have hlabels : labels.length = values.length ↔
      ∀ given, chart.get "labels" = .list given → given.length = values.length := by
    unfold labels
    split
    · rename_i given hgiven
      simp [hgiven]
    · rename_i hnone
      exact iff_of_true (by simp) fun given hgiven => absurd hgiven (hnone given)
  rw [← hlabels, ← hlength]
  constructor
  · exact fun husable => husable.labelled labels _ rfl
  · intro hsame
    refine usable_of_labelled rfl ?_ ?_ nofun
    · exact List.ne_nil_of_length_pos (hlength ▸ List.length_pos_iff.mpr hvalues)
    · rintro _ _ ⟨⟩
      exact hsame

/-! ## Figures -/

/-- A chart with all that its figure is to show: a bare pie has a label for each value if it has
labels at all, and a radar chart a row with values in its first series. -/
def Complete (chart : Datum) : Prop :=
  match barePie? chart with
  | some values =>
    ∀ labels, chart.get "labels" = .list labels → labels.length = values.length
  | none => kindOf chart = .radar → ∃ row ∈ firstItems chart, itemsIn row "value" ≠ []

/-- Of the figures that are no fallbacks those of complete charts can be used, and no others. -/
theorem usable_iff (hf : ofChart chart theme = .ok f) (hshown : f.fallback = false) :
    f.Usable ↔ Complete chart := by
  unfold Complete
  rcases shown_cases hf hshown with ⟨values, hbare, hf⟩ | ⟨hbare, hdrawable, hf⟩
  · rw [hbare]
    refine usable_barePieOf_iff ?_ hf
    rintro rfl
    unfold barePie? at hbare
    split at hbare
    · split at hbare <;> cases hbare
    · cases hbare
  · rw [hbare]
    unfold drawn at hf
    cases hkind : kindOf chart with
    | radar =>
      rw [hkind] at hf
      simpa using usable_radarOf_iff hf
    | pie =>
      rw [hkind] at hf
      exact iff_of_true (usable_pieOf hf hshown) nofun
    | scatter =>
      rw [hkind] at hf
      exact iff_of_true (usable_scatterOf hf hdrawable) nofun
    | line =>
      rw [hkind] at hf
      exact iff_of_true (usable_axisOf hf hdrawable) nofun
    | bar =>
      rw [hkind] at hf
      exact iff_of_true (usable_axisOf hf hdrawable) nofun

/-- A radar chart with a single row. -/
def profile (row : Datum) : Datum :=
  .object [("series", .list [.object [("type", .text "radar"), ("data", .list [row])]])]

/-- The figure of the profile with its lines. -/
def profileFigure (lines : List Line) : Figure :=
  ⟨.radar [] lines, .text "", ({} : Theme).palette, lookOf .null .radar {}, false⟩

theorem usable_iff_profile :
    ofChart (profile (.object [("value", .list [.float 2.0])])) {} =
        .ok (profileFigure [⟨"Series 1", [some 2.0]⟩]) ∧
      ((profileFigure [⟨"Series 1", [some 2.0]⟩]).Usable ↔
        Complete (profile (.object [("value", .list [.float 2.0])]))) := by
  have hf : ofChart (profile (.object [("value", .list [.float 2.0])])) {} =
      .ok (profileFigure [⟨"Series 1", [some 2.0]⟩]) := by
    rfl
  exact ⟨hf, usable_iff hf rfl⟩

/-- A radar chart whose only row is a number shows nothing. -/
theorem not_usable : ¬ ∀ r theme f, ofChart (.object r) theme = .ok f → f.fallback = false →
    f.Usable := by
  intro husable
  have hf : ofChart (profile (.int 1)) {} = .ok (profileFigure []) := by
    rfl
  obtain ⟨l, hl, -⟩ := (husable _ _ _ hf rfl).hasPoint
  cases hl

end ChartBoard.Figure
