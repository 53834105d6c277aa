import ChartBoard.Proofs.Chart.Amount
import ChartBoard.Proofs.Chart.Plot
import ChartBoard.Proofs.Datum.Selection

/-!
# Readable plots

A plot can be read back from its description when its numbers are finite, its series have names and
there is a point at all.

* `Plot.Readable` and `Plot.HasPoint` say that of a plot.
* `Request.HasData` says what a request and its rows need for it.
* `Request.readable_plot` and `Request.hasPoint_plot` say that this is enough.
-/

namespace ChartBoard.Chart

open Result

/-- A plot of finite numbers, in which no series lacks a name. -/
def Plot.Readable : Plot → Prop
  | axis _ _ _ _ series => ∀ s ∈ series, s.name.label ≠ "" ∧ ∀ a ∈ s.amounts, a.IsFinite
  | pie _ slices => ∀ s ∈ slices, s.amount.IsFinite
  | radar _ shapes => ∀ shape ∈ shapes, shape.1 ≠ "" ∧ ∀ x ∈ shape.2, finite? x = some x
  | scatter _ _ clouds => ∀ cloud ∈ clouds, cloud.1 ≠ "" ∧
      ∀ point ∈ cloud.2, finite? point.1 = some point.1 ∧ finite? point.2 = some point.2

/-- A plot with something to draw. -/
def Plot.HasPoint : Plot → Prop
  | axis _ _ _ _ series => ∃ s ∈ series, s.amounts ≠ []
  | pie _ slices => slices ≠ []
  | radar _ shapes => shapes ≠ []
  | scatter _ _ clouds => ∃ cloud ∈ clouds, cloud.2 ≠ []

/-- Rows and measures to draw: bars and lines that are split into series have a text to split by,
and a pie of several measures has a finite sum for each of them. -/
structure Request.HasData (q : Request) (rows : List Record) : Prop where
  rows_ne_nil : rows ≠ []
  yFields_ne_nil : q.yFields ≠ []
  ne_empty_of_mem : ∀ field ∈ q.yFields, field ≠ ""
  splits : q.kind = "bar" ∨ q.kind = "line" →
    ∀ field ∈ q.seriesBy, ∃ row ∈ rows, (Record.get row field).label ≠ ""
  sums : q.kind = "pie" → 1 < q.yFields.length →
    ∀ field ∈ q.yFields, ∀ xs, column rows field = .ok xs → (total xs).IsFinite

namespace Request

variable {q : Request} {rows : List Record} {p : Plot}

theorem finite?_of_mem_column {field : String} {xs : List Float} (h : column rows field = .ok xs) :
    ∀ x ∈ xs, finite? x = some x := by
  intro x hx
  obtain ⟨row, -, hrow⟩ := of_mem_of_mapM_eq_ok h hx
  exact Datum.finite?_of_number hrow

theorem isFinite_of_mem_map_some {xs : List Float} (h : ∀ x ∈ xs, finite? x = some x) :
    ∀ a ∈ xs.map some, Amount.IsFinite a := by
  rw [List.forall_mem_map]
  exact fun x hx => Amount.isFinite_some.mpr (Datum.isFinite_of_finite? (h x hx))

/-- A pie has a slice for each measure when there are several, else one for each row. -/
theorem pie_eq_ok (h : q.pie rows = .ok p) : ∃ name slices, p = .pie name slices ∧
    ((1 < q.yFields.length ∧ q.yFields.mapM (fun field => do
        return Slice.mk field (total (← column rows field))) = .ok slices) ∨
      rows.mapM (fun row => do
        return Slice.mk (q.label row) (some (← numberIn (← q.measure) row))) = .ok slices) := by
  unfold pie at h
  split at h
  · rename_i hseveral
    obtain ⟨slices, hslices, h⟩ := bind_eq_ok.mp h
    obtain rfl := pure_eq_ok.mp h
    exact ⟨_, slices, rfl, .inl ⟨hseveral, hslices⟩⟩
  · obtain ⟨slices, hslices, h⟩ := bind_eq_ok.mp h
    split at h <;>
    · obtain ⟨name, -, h⟩ := bind_eq_ok.mp h
      obtain rfl := pure_eq_ok.mp h
      exact ⟨name, slices, rfl, .inr hslices⟩

/-! ## Finite numbers under names -/

theorem readable_pie (hdata : q.HasData rows) (hkind : q.kind = "pie") (h : q.pie rows = .ok p) :
    p.Readable := by
  obtain ⟨name, slices, rfl, ⟨hseveral, hslices⟩ | hslices⟩ := pie_eq_ok h
  · intro s hs
    obtain ⟨field, hfield, hs⟩ := of_mem_of_mapM_eq_ok hslices hs
    obtain ⟨xs, hxs, hs⟩ := bind_eq_ok.mp hs
    obtain rfl := pure_eq_ok.mp hs
    exact hdata.sums hkind hseveral field hfield xs hxs
  · intro s hs
    obtain ⟨row, -, hs⟩ := of_mem_of_mapM_eq_ok hslices hs
    obtain ⟨field, -, hs⟩ := bind_eq_ok.mp hs
    obtain ⟨x, hx, hs⟩ := bind_eq_ok.mp hs
    obtain rfl := pure_eq_ok.mp hs
    exact Amount.isFinite_some.mpr (Datum.isFinite_of_finite? (Datum.finite?_of_number hx))

theorem readable_radar (hdata : q.HasData rows) (h : q.radar rows = .ok p) : p.Readable := by
  obtain ⟨shapes, hshapes, h⟩ := bind_eq_ok.mp h
  obtain rfl := pure_eq_ok.mp h
  intro shape hshape
  obtain ⟨field, hfield, hshape⟩ := of_mem_of_mapM_eq_ok hshapes hshape
  obtain ⟨xs, hxs, hshape⟩ := bind_eq_ok.mp hshape
  obtain rfl := pure_eq_ok.mp hshape
  exact ⟨hdata.ne_empty_of_mem field hfield, finite?_of_mem_column hxs⟩

theorem readable_scatter (hdata : q.HasData rows) (h : q.scatter rows = .ok p) : p.Readable := by
  obtain ⟨clouds, hclouds, h⟩ := bind_eq_ok.mp h
  obtain rfl := pure_eq_ok.mp h
  intro cloud hcloud
  obtain ⟨field, hfield, hcloud⟩ := of_mem_of_mapM_eq_ok hclouds hcloud
  obtain ⟨points, hpoints, hcloud⟩ := bind_eq_ok.mp hcloud
  obtain rfl := pure_eq_ok.mp hcloud
  refine ⟨hdata.ne_empty_of_mem field hfield, fun point hpoint => ?_⟩
  obtain ⟨row, -, hrow⟩ := of_mem_of_mapM_eq_ok hpoints hpoint
  obtain ⟨x, hx, hrow⟩ := bind_eq_ok.mp hrow
  obtain ⟨y, hy, hrow⟩ := bind_eq_ok.mp hrow
  obtain rfl := pure_eq_ok.mp hrow
  exact ⟨Datum.finite?_of_number hx, Datum.finite?_of_number hy⟩

theorem readable_pivot {field : String} (h : q.pivot field rows = .ok p) : p.Readable := by
  obtain ⟨series, hseries, h⟩ := bind_eq_ok.mp h
  obtain rfl := pure_eq_ok.mp h
  intro s hs
  obtain ⟨name, hname, hs⟩ := of_mem_of_mapM_eq_ok hseries hs
  obtain ⟨amounts, hamounts, hs⟩ := bind_eq_ok.mp hs
  obtain rfl := pure_eq_ok.mp hs
  refine ⟨by simpa [Datum.label, Datum.isNull, Datum.display] using (List.mem_filter.mp hname).2,
    fun a ha => ?_⟩
  obtain ⟨category, -, hcategory⟩ := of_mem_of_mapM_eq_ok hamounts ha
  split at hcategory
  · obtain ⟨measure, -, hcategory⟩ := bind_eq_ok.mp hcategory
    obtain ⟨x, hx, hcategory⟩ := bind_eq_ok.mp hcategory
    obtain rfl := pure_eq_ok.mp hcategory
    exact Amount.isFinite_some.mpr (Datum.isFinite_of_finite? (Datum.finite?_of_number hx))
  · obtain rfl := Except.ok.inj hcategory
    intro x hx
    cases hx

theorem readable_plain (hdata : q.HasData rows) (h : q.plain rows = .ok p) : p.Readable := by
  obtain ⟨series, hseries, h⟩ := bind_eq_ok.mp h
  obtain rfl := pure_eq_ok.mp h
  intro s hs
  obtain ⟨field, hfield, hs⟩ := of_mem_of_mapM_eq_ok hseries hs
  obtain ⟨xs, hxs, hs⟩ := bind_eq_ok.mp hs
  obtain rfl := pure_eq_ok.mp hs
  have hname : (Datum.text field).truthy = true := by
    simpa [Datum.truthy] using hdata.ne_empty_of_mem field hfield
  refine ⟨?_, isFinite_of_mem_map_some (finite?_of_mem_column hxs)⟩
  dsimp only
  split
  · exact Datum.label_ne_empty (Datum.truthy_orElse hname)
  · exact Datum.label_ne_empty hname

theorem readable_plot (hdata : q.HasData rows) (h : q.plot rows = .ok p) : p.Readable := by
  unfold plot at h
  split at h
  · rename_i hpie
    exact readable_pie hdata (beq_iff_eq.mp hpie) h
  split at h
  · exact readable_radar hdata h
  split at h
  · exact readable_scatter hdata h
  split at h
  · exact readable_pivot h
  · exact readable_plain hdata h

/-! ## Points -/

/-- A traversal of something gives something. -/
theorem ne_nil_of_mapM_eq_ok {α β : Type} {f : α → Except Fault β} {xs : List α} {ys : List β}
    (hne : xs ≠ []) (h : xs.mapM f = .ok ys) : ys ≠ [] := by
  rw [← List.length_pos_iff, length_of_mapM_eq_ok h, List.length_pos_iff]
  exact hne

theorem hasPoint_pie (hdata : q.HasData rows) (h : q.pie rows = .ok p) : p.HasPoint := by
  obtain ⟨name, slices, rfl, ⟨-, hslices⟩ | hslices⟩ := pie_eq_ok h
  · exact ne_nil_of_mapM_eq_ok hdata.yFields_ne_nil hslices
  · exact ne_nil_of_mapM_eq_ok hdata.rows_ne_nil hslices

theorem hasPoint_radar (hdata : q.HasData rows) (h : q.radar rows = .ok p) : p.HasPoint := by
  obtain ⟨shapes, hshapes, h⟩ := bind_eq_ok.mp h
  obtain rfl := pure_eq_ok.mp h
  exact ne_nil_of_mapM_eq_ok hdata.yFields_ne_nil hshapes

theorem hasPoint_scatter (hdata : q.HasData rows) (h : q.scatter rows = .ok p) : p.HasPoint := by
  obtain ⟨clouds, hclouds, h⟩ := bind_eq_ok.mp h
  obtain rfl := pure_eq_ok.mp h
  obtain ⟨cloud, hcloud⟩ :=
    List.exists_mem_of_ne_nil _ (ne_nil_of_mapM_eq_ok hdata.yFields_ne_nil hclouds)
  refine ⟨cloud, hcloud, ?_⟩
  obtain ⟨field, -, hfield⟩ := of_mem_of_mapM_eq_ok hclouds hcloud
  obtain ⟨points, hpoints, hfield⟩ := bind_eq_ok.mp hfield
  obtain rfl := pure_eq_ok.mp hfield
  exact ne_nil_of_mapM_eq_ok hdata.rows_ne_nil hpoints

/-- Split by a field with a text, there is a series, and it has an amount for each category. -/
theorem hasPoint_pivot {field : String} (hrows : rows ≠ [])
    (hsplits : ∃ row ∈ rows, (Record.get row field).label ≠ "") (h : q.pivot field rows = .ok p) :
    p.HasPoint := by
  obtain ⟨series, hseries, h⟩ := bind_eq_ok.mp h
  obtain rfl := pure_eq_ok.mp h
  have hnames : seriesNames field rows ≠ [] := by
    obtain ⟨row, hrow, hlabel⟩ := hsplits
    refine List.ne_nil_of_mem (a := (Record.get row field).label) ?_
    refine List.mem_filter.mpr ⟨mem_distinctTexts.mpr (List.mem_map_of_mem hrow), ?_⟩
    simpa using hlabel
  have hcategories : distinctTexts (rows.map q.label) ≠ [] := by
    obtain ⟨row, hrow⟩ := List.exists_mem_of_ne_nil rows hrows
    exact List.ne_nil_of_mem (mem_distinctTexts.mpr (List.mem_map_of_mem hrow))
  obtain ⟨s, hs⟩ := List.exists_mem_of_ne_nil _ (ne_nil_of_mapM_eq_ok hnames hseries)
  refine ⟨s, hs, ?_⟩
  obtain ⟨name, -, hname⟩ := of_mem_of_mapM_eq_ok hseries hs
  obtain ⟨amounts, hamounts, hname⟩ := bind_eq_ok.mp hname
  obtain rfl := pure_eq_ok.mp hname
  exact ne_nil_of_mapM_eq_ok hcategories hamounts

theorem hasPoint_plain (hdata : q.HasData rows) (h : q.plain rows = .ok p) : p.HasPoint := by
  obtain ⟨series, hseries, h⟩ := bind_eq_ok.mp h
  obtain rfl := pure_eq_ok.mp h
  obtain ⟨s, hs⟩ :=
    List.exists_mem_of_ne_nil _ (ne_nil_of_mapM_eq_ok hdata.yFields_ne_nil hseries)
  refine ⟨s, hs, ?_⟩
  obtain ⟨field, -, hfield⟩ := of_mem_of_mapM_eq_ok hseries hs
  obtain ⟨xs, hxs, hfield⟩ := bind_eq_ok.mp hfield
  obtain rfl := pure_eq_ok.mp hfield
  simpa using ne_nil_of_mapM_eq_ok hdata.rows_ne_nil hxs

theorem hasPoint_plot (hkind : q.kind ∈ ["bar", "line", "pie", "radar", "scatter"])
    (hdata : q.HasData rows) (h : q.plot rows = .ok p) : p.HasPoint := by
  unfold plot at h
  split at h
  · exact hasPoint_pie hdata h
  rename_i hpie
  split at h
  · exact hasPoint_radar hdata h
  rename_i hradar
  split at h
  · exact hasPoint_scatter hdata h
  rename_i hscatter
  split at h
  · rename_i field hfield
    have hbars : q.kind = "bar" ∨ q.kind = "line" := by
      rw [beq_iff_eq] at hpie hradar hscatter
      simpa [hpie, hradar, hscatter] using hkind
    exact hasPoint_pivot hdata.rows_ne_nil (hdata.splits hbars field hfield) h
  · exact hasPoint_plain hdata h

end Request

end ChartBoard.Chart
