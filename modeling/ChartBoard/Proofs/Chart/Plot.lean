import ChartBoard.Chart.Spec
import ChartBoard.Proofs.Result

/-!
# Aligned plots

What a chart shows is made from rows so that every series has an amount for each category, and every
shape of a radar chart a value for each indicator.

* `Plot.Suits` says that of a plot, and that it is of the kind that was asked for.
* `Request.suits_plot` is the result.
-/

namespace ChartBoard.Chart

open Result

/-- A plot of a kind of chart, with amounts for all its categories or indicators. -/
inductive Plot.Suits (kind : String) : Plot → Prop
  | axis {categories : List String} {xName yName : Datum} {series : List Series}
      (hpie : kind ≠ "pie") (hradar : kind ≠ "radar") (hscatter : kind ≠ "scatter")
      (h : ∀ s ∈ series, s.amounts.length = categories.length) :
      Suits kind (.axis kind categories xName yName series)
  | pie {name : Datum} {slices : List Slice} (hkind : kind = "pie") : Suits kind (.pie name slices)
  | radar {indicators : List String} {shapes : List (String × List Float)}
      (hkind : kind = "radar") (h : ∀ s ∈ shapes, s.2.length = indicators.length) :
      Suits kind (.radar indicators shapes)
  | scatter {xName yName : Datum} {clouds : List (String × List (Float × Float))}
      (hkind : kind = "scatter") : Suits kind (.scatter xName yName clouds)

namespace Request

variable {q : Request} {rows : List Record} {p : Plot}

theorem length_column {field : String} {xs : List Float} (h : column rows field = .ok xs) :
    xs.length = rows.length :=
  length_of_mapM_eq_ok h

theorem suits_pie (hkind : q.kind = "pie") (h : q.pie rows = .ok p) : p.Suits q.kind := by
  unfold pie at h
  split at h
  · obtain ⟨slices, -, h⟩ := bind_eq_ok.mp h
    obtain rfl := pure_eq_ok.mp h
    exact .pie hkind
  · obtain ⟨slices, -, h⟩ := bind_eq_ok.mp h
    split at h
    · obtain ⟨name, -, h⟩ := bind_eq_ok.mp h
      obtain rfl := pure_eq_ok.mp h
      exact .pie hkind
    · obtain ⟨name, -, h⟩ := bind_eq_ok.mp h
      obtain rfl := pure_eq_ok.mp h
      exact .pie hkind

theorem suits_radar (hkind : q.kind = "radar") (h : q.radar rows = .ok p) : p.Suits q.kind := by
  obtain ⟨shapes, hshapes, h⟩ := bind_eq_ok.mp h
  obtain rfl := pure_eq_ok.mp h
  refine .radar hkind fun shape hshape => ?_
  obtain ⟨field, -, hfield⟩ := of_mem_of_mapM_eq_ok hshapes hshape
  obtain ⟨xs, hxs, hfield⟩ := bind_eq_ok.mp hfield
  obtain rfl := pure_eq_ok.mp hfield
  rw [length_column hxs, List.length_map, List.length_map]

theorem suits_scatter (hkind : q.kind = "scatter") (h : q.scatter rows = .ok p) :
    p.Suits q.kind := by
  obtain ⟨clouds, -, h⟩ := bind_eq_ok.mp h
  obtain rfl := pure_eq_ok.mp h
  exact .scatter hkind

section Axis

variable (hpie : q.kind ≠ "pie") (hradar : q.kind ≠ "radar") (hscatter : q.kind ≠ "scatter")

include hpie hradar hscatter

theorem suits_pivot {field : String} (h : q.pivot field rows = .ok p) : p.Suits q.kind := by
  obtain ⟨series, hseries, h⟩ := bind_eq_ok.mp h
  obtain rfl := pure_eq_ok.mp h
  refine .axis hpie hradar hscatter fun s hs => ?_
  obtain ⟨name, -, hname⟩ := of_mem_of_mapM_eq_ok hseries hs
  obtain ⟨amounts, hamounts, hname⟩ := bind_eq_ok.mp hname
  obtain rfl := pure_eq_ok.mp hname
  exact length_of_mapM_eq_ok hamounts

theorem suits_plain (h : q.plain rows = .ok p) : p.Suits q.kind := by
  obtain ⟨series, hseries, h⟩ := bind_eq_ok.mp h
  obtain rfl := pure_eq_ok.mp h
  refine .axis hpie hradar hscatter fun s hs => ?_
  obtain ⟨field, -, hfield⟩ := of_mem_of_mapM_eq_ok hseries hs
  obtain ⟨xs, hxs, hfield⟩ := bind_eq_ok.mp hfield
  obtain rfl := pure_eq_ok.mp hfield
  rw [List.length_map, List.length_map, length_column hxs]

end Axis

/-- What a chart shows is of its kind and aligned. -/
theorem suits_plot (h : q.plot rows = .ok p) : p.Suits q.kind := by
  unfold plot at h
  split at h
  · rename_i hpie
    exact suits_pie (beq_iff_eq.mp hpie) h
  rename_i hpie
  split at h
  · rename_i hradar
    exact suits_radar (beq_iff_eq.mp hradar) h
  rename_i hradar
  split at h
  · rename_i hscatter
    exact suits_scatter (beq_iff_eq.mp hscatter) h
  rename_i hscatter
  rw [beq_iff_eq] at hpie hradar hscatter
  split at h
  · exact suits_pivot hpie hradar hscatter h
  · exact suits_plain hpie hradar hscatter h

theorem plot_of_spec {spec : Spec} (h : q.spec rows = .ok spec) : q.plot rows = .ok spec.plot := by
  obtain ⟨_, -, h⟩ := bind_eq_ok.mp h
  obtain ⟨plot, hplot, h⟩ := bind_eq_ok.mp h
  obtain rfl := pure_eq_ok.mp h
  exact hplot

end Request

end ChartBoard.Chart
