import ChartBoard.Proofs.Figure.Alignment

/-!
# Labels behind points

A figure that is no fallback shows the labels of its chart in order: bars and lines the texts on the
X axis, a pie the names of its slices.  So a clicked point leads back to the label at its position.

* `shown_cases` says how such a figure comes about.
* `categories_of_axis` and `labels_of_pie` are the labels of the two kinds of figure.
* `Content.IsTick` says of which positions there is a label, `selected_of_category` and
  `selected_of_slice` say that a click selects it.
-/

namespace ChartBoard.Figure

open Chart (IsSerie Shaped)
open Result

variable {r : Record} {kind : String} {theme : Theme} {f : Figure}

/-- A figure that is no fallback is a bare pie or drawn from the series of its chart. -/
theorem shown_cases {chart : Datum} (hf : ofChart chart theme = .ok f)
    (hshown : f.fallback = false) :
    (∃ values, barePie? chart = some values ∧ barePieOf chart values theme = .ok f) ∨
      (barePie? chart = none ∧ Chart.isDrawable chart = true ∧ drawn chart theme = .ok f) := by
  unfold ofChart at hf
  split at hf
  · obtain rfl := Except.ok.inj hf
    cases hshown
  split at hf
  · rename_i values hbare
    exact Or.inl ⟨values, hbare, hf⟩
  rename_i hbare
  split at hf
  · rename_i hdrawable
    exact Or.inr ⟨hbare, hdrawable, hf⟩
  · obtain rfl := Except.ok.inj hf
    cases hshown

/-- A figure in line with its labels that is no fallback is drawn. -/
theorem drawn_of_ofChart (h : Shaped r kind) (hf : ofChart (.object r) theme = .ok f)
    (hshown : f.fallback = false) :
    Chart.isDrawable (.object r) = true ∧ drawn (.object r) theme = .ok f := by
  rcases shown_cases hf hshown with ⟨values, hbare, -⟩ | ⟨-, hdrawn⟩
  · cases (barePie?_of_shaped h).symm.trans hbare
  · exact hdrawn

theorem categories_of_axis {axis : Record} {labels : List Datum} (h : Shaped r kind)
    (hkind : kind = "bar" ∨ kind = "line") (hxAxis : Record.get r "xAxis" = .object axis)
    (hlabels : Record.get axis "data" = .list labels)
    (hf : ofChart (.object r) theme = .ok f) (hshown : f.fallback = false) :
    ∃ curved lines x y, f.content = .axis curved (labels.map Datum.label) lines x y := by
  obtain ⟨hdrawable, hdrawn⟩ := drawn_of_ofChart h hf hshown
  have hitems : itemsIn ((Datum.object r).get "xAxis") "data" = labels := by
    rw [Datum.get_object, hxAxis, itemsIn_of_get hlabels]
  have haxis (curved : Bool) (haxisOf : axisOf (.object r) curved theme = .ok f) :
      ∃ curved lines x y, f.content = .axis curved (labels.map Datum.label) lines x y := by
    obtain ⟨lines, -, hframed⟩ := bind_eq_ok.mp haxisOf
    obtain rfl := pure_eq_ok.mp hframed
    rw [hitems]
    exact ⟨curved, lines, _, _, rfl⟩
  unfold drawn at hdrawn
  rw [kindOf_of_shaped h hdrawable] at hdrawn
  rcases hkind with rfl | rfl
  · exact haxis false hdrawn
  · exact haxis true hdrawn

theorem labels_of_pie {first : Record} {slices : List Datum} (h : Shaped r "pie")
    (hseries : Record.get r "series" = .list [.object first])
    (hslices : Record.get first "data" = .list slices)
    (hf : ofChart (.object r) theme = .ok f) (hshown : f.fallback = false) :
    ∃ values, f.content = .pie (slices.map fun v => (v.get "name").label) values := by
  obtain ⟨hdrawable, hdrawn⟩ := drawn_of_ofChart h hf hshown
  unfold drawn at hdrawn
  rw [kindOf_of_shaped h hdrawable] at hdrawn
  have hpie : pieOf (.object r) theme = .ok f := hdrawn
  have hfirst : ((seriesOf (.object r)).head?.map fun s => itemsIn s "data").getD [] = slices := by
    rw [seriesOf_of_shaped h hseries, List.head?_cons, Option.map_some, Option.getD_some,
      itemsIn_of_get hslices]
  unfold pieOf at hpie
  extract_lets series at hpie
  split at hpie
  · rename_i members rest hitems
    obtain ⟨values, -, hframed⟩ := bind_eq_ok.mp hpie
    obtain rfl := pure_eq_ok.mp hframed
    rw [hfirst] at hitems
    rw [hitems]
    exact ⟨_, rfl⟩
  · split at hpie
    · rename_i hseveral
      have hone : series = [.object first] := seriesOf_of_shaped h hseries
      rw [hone] at hseveral
      exact absurd hseveral (Nat.lt_irrefl 1)
    · obtain rfl := Except.ok.inj hpie
      cases hshown

/-! ## Clicked points -/

/-- True of the position of a category or of a slice. -/
def Content.IsTick (c : Content) (position : Nat) : Prop :=
  position < c.categories.length ∨ position < c.labels.length

theorem selected_zero (hshown : f.fallback = false) (position : Nat) :
    f.selected 0 position = f.content.labelAt? 0 position := by
  have hnat : ¬ (position : Int) < 0 := by omega
  simp [selected, hshown, hnat]

theorem selected_of_category {position : Nat} {label : String} (hshown : f.fallback = false)
    (h : f.content.categories[position]? = some label) :
    f.selected 0 position = some (.named label) := by
  rw [selected_zero hshown]
  cases hcontent : f.content with
  | axis =>
    rw [hcontent] at h
    exact congrArg (Option.map Place.named) h
  | radar =>
    rw [hcontent] at h
    exact congrArg (Option.map Place.named) h
  | _ => simp [hcontent, Content.categories] at h

theorem selected_of_slice {position : Nat} {label : String} (hshown : f.fallback = false)
    (h : f.content.labels[position]? = some label) :
    f.selected 0 position = some (.named label) := by
  rw [selected_zero hshown]
  cases hcontent : f.content with
  | pie =>
    rw [hcontent] at h
    exact congrArg (Option.map Place.named) h
  | radar =>
    rw [hcontent] at h
    exact congrArg (Option.map Place.named) h
  | _ => simp [hcontent, Content.labels] at h

end ChartBoard.Figure
