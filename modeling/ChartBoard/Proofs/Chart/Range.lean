import ChartBoard.Chart.Finish
import ChartBoard.Chart.Spec
import ChartBoard.Proofs.Datum.Levels
import ChartBoard.Proofs.Datum.Range

/-!
# The numbers and the depth of charts of rows

All numbers of a chart that is made of rows are doubles or the zero of an empty amount, and its
parts are the same for all rows.  What is taken over unread are titles and names.  So a chart is in
range when its titles are, and it stays so when it is finished; it is not deep when its titles have
no parts.

* `Plot.inRange_toRecord` and `Plot.levels_toRecord` are about the description of a plot by its
  names, `Request.forall_names` says that those of a plot made of rows are titles or texts.
* `inRange_spec` and `levels_spec` put the two together, `inRange_dressed` is about the stages of
  finishing.
-/

namespace ChartBoard.Chart

open Datum Result

/-! ## Described plots -/

theorem inRange_toDatum (a : Amount) : a.toDatum.inRange = true := by
  cases a with
  | none => exact inRange_zero
  | some x => rfl

/-- The names that the description of a plot takes over. -/
def Plot.names : Plot → List Datum
  | axis _ _ xName yName series => xName :: yName :: series.map (·.name)
  | pie name _ => [name]
  | radar .. => []
  | scatter xName yName _ => [xName, yName]

theorem Series.inRange_toDatum {s : Series} (h : s.name.inRange = true) (kind : String) :
    (s.toDatum kind).inRange = true := by
  simp [Series.toDatum, h, Chart.inRange_toDatum]

theorem Slice.inRange_toDatum (s : Slice) : s.toDatum.inRange = true := by
  simp [Slice.toDatum, Chart.inRange_toDatum]

theorem inRange_shapeDatum (shape : String × List Float) : (shapeDatum shape).inRange = true := by
  simp [shapeDatum]

theorem inRange_cloudDatum (cloud : String × List (Float × Float)) :
    (cloudDatum cloud).inRange = true := by
  refine inRange_object.mpr (List.forall_mem_cons.mpr ⟨rfl, List.forall_mem_cons.mpr ⟨rfl, ?_⟩⟩)
  refine List.forall_mem_singleton.mpr (inRange_list_map.mpr fun point _ => ?_)
  simp

theorem Plot.inRange_toRecord {p : Plot} (h : ∀ v ∈ p.names, v.inRange = true) :
    (object p.toRecord).inRange = true := by
  cases p with
  | axis kind categories xName yName series =>
    simp only [names, List.forall_mem_cons, List.forall_mem_map] at h
    obtain ⟨hx, hy, hseries⟩ := h
    have hdescribed : ∀ s ∈ series, (s.toDatum kind).inRange = true :=
      fun s hs => Series.inRange_toDatum (hseries s hs) kind
    simpa [Plot.toRecord, hx, hy] using ⟨hseries, hdescribed⟩
  | pie name slices =>
    have hname : name.inRange = true := by simpa [names] using h
    simp [Plot.toRecord, hname, Slice.inRange_toDatum]
  | radar indicators shapes =>
    have hshapes : (list (shapes.map shapeDatum)).inRange = true :=
      inRange_list_map.mpr fun shape _ => inRange_shapeDatum shape
    simpa [Plot.toRecord] using hshapes
  | scatter xName yName clouds =>
    simp only [names, List.forall_mem_cons] at h
    have hclouds : (list (clouds.map cloudDatum)).inRange = true :=
      inRange_list_map.mpr fun cloud _ => inRange_cloudDatum cloud
    simpa [Plot.toRecord, h] using hclouds

theorem Amount.levels_toDatum (a : Amount) : a.toDatum.levels = 0 := by
  cases a <;> rfl

theorem Series.levels_toDatum {s : Series} (h : s.name.levels = 0) (kind : String) :
    (s.toDatum kind).levels ≤ 2 := by
  have hamounts : itemLevels (s.amounts.map Amount.toDatum) ≤ 0 :=
    itemLevels_le.mpr (List.forall_mem_map.mpr fun a _ => Nat.le_of_eq a.levels_toDatum)
  simp only [Series.toDatum, levels, memberLevels, h]
  omega

theorem Slice.levels_toDatum (s : Slice) : s.toDatum.levels ≤ 1 := by
  simp only [Slice.toDatum, levels, memberLevels, s.amount.levels_toDatum]
  omega

theorem levels_shapeDatum (shape : String × List Float) : (shapeDatum shape).levels ≤ 2 := by
  have hvalues : itemLevels (shape.2.map .float) ≤ 0 :=
    itemLevels_le.mpr (List.forall_mem_map.mpr fun _ _ => Nat.le_refl 0)
  simp only [shapeDatum, levels, memberLevels]
  omega

theorem levels_cloudDatum (cloud : String × List (Float × Float)) :
    (cloudDatum cloud).levels ≤ 3 := by
  have hpoints : itemLevels (cloud.2.map fun p => .list [.float p.1, .float p.2]) ≤ 1 :=
    itemLevels_le.mpr (List.forall_mem_map.mpr fun _ _ => Nat.le_refl 1)
  simp only [cloudDatum, levels, memberLevels]
  omega

/-- The description of a plot is not deep when its names have no parts. -/
theorem Plot.levels_toRecord {p : Plot} (h : ∀ v ∈ p.names, v.levels = 0) :
    (object p.toRecord).levels ≤ 6 := by
  cases p with
  | axis kind categories xName yName series =>
    simp only [names, List.forall_mem_cons, List.forall_mem_map] at h
    obtain ⟨hx, hy, hnames⟩ := h
    have hseries : itemLevels (series.map (·.toDatum kind)) ≤ 2 :=
      itemLevels_le.mpr (List.forall_mem_map.mpr fun s hs => s.levels_toDatum (hnames s hs) kind)
    have hlegend : itemLevels (series.map (·.name)) ≤ 0 :=
      itemLevels_le.mpr (List.forall_mem_map.mpr fun s hs => Nat.le_of_eq (hnames s hs))
    have hcategories := levels_texts categories
    simp only [Plot.toRecord, levels, memberLevels, hx, hy]
    omega
  | pie name slices =>
    have hname : name.levels = 0 := h name (List.mem_singleton_self name)
    have hslices : itemLevels (slices.map Slice.toDatum) ≤ 1 :=
      itemLevels_le.mpr (List.forall_mem_map.mpr fun s _ => s.levels_toDatum)
    simp only [Plot.toRecord, levels, memberLevels, itemLevels, hname]
    omega
  | radar indicators shapes =>
    have hindicators : itemLevels (indicators.map fun s => .object [("name", .text s)]) ≤ 1 :=
      itemLevels_le.mpr (List.forall_mem_map.mpr fun _ _ => Nat.le_refl 1)
    have hshapes : itemLevels (shapes.map shapeDatum) ≤ 2 :=
      itemLevels_le.mpr (List.forall_mem_map.mpr fun s _ => levels_shapeDatum s)
    simp only [Plot.toRecord, levels, memberLevels, itemLevels]
    omega
  | scatter xName yName clouds =>
    simp only [names, List.forall_mem_cons] at h
    obtain ⟨hx, hy, -⟩ := h
    have hclouds : itemLevels (clouds.map cloudDatum) ≤ 3 :=
      itemLevels_le.mpr (List.forall_mem_map.mpr fun c _ => levels_cloudDatum c)
    simp only [Plot.toRecord, levels, memberLevels, hx, hy]
    omega

/-! ## Plots made of rows -/

/-- Titles with a property. -/
structure Titles.All (P : Datum → Prop) (t : Titles) : Prop where
  chart : P t.chart
  xAxis : P t.xAxis
  yAxis : P t.yAxis
  legend : P t.legend

namespace Request

variable {q : Request} {rows : List Record} {p : Plot} {P : Datum → Prop}
  (htext : ∀ s, P (text s)) (ht : q.titles.All P)

include htext ht

theorem forall_xName : P q.xName := forall_orElse ht.xAxis (htext _)

theorem forall_yName : P q.yName := forall_orElse ht.yAxis (htext _)

theorem forall_title : P q.title := forall_orElse ht.chart (htext _)

theorem forall_names_pie (h : q.pie rows = .ok p) : ∀ v ∈ p.names, P v := by
  unfold pie at h
  split at h
  · obtain ⟨slices, -, h⟩ := bind_eq_ok.mp h
    obtain rfl := pure_eq_ok.mp h
    exact List.forall_mem_singleton.mpr (forall_orElse ht.legend (htext _))
  · obtain ⟨slices, -, h⟩ := bind_eq_ok.mp h
    split at h
    · obtain ⟨name, hname, h⟩ := bind_eq_ok.mp h
      obtain rfl := pure_eq_ok.mp h
      obtain rfl := Except.ok.inj hname
      exact List.forall_mem_singleton.mpr ht.legend
    · obtain ⟨name, hname, h⟩ := bind_eq_ok.mp h
      obtain rfl := pure_eq_ok.mp h
      obtain ⟨field, -, rfl⟩ := map_eq_ok.mp hname
      exact List.forall_mem_singleton.mpr (htext field)

theorem forall_names_axis {categories : List String} {series : List Series}
    (h : ∀ s ∈ series, P s.name) :
    ∀ v ∈ (Plot.axis q.kind categories q.xName q.yName series).names, P v := by
  rw [Plot.names, List.forall_mem_cons, List.forall_mem_cons, List.forall_mem_map]
  exact ⟨forall_xName htext ht, forall_yName htext ht, h⟩

theorem forall_names_pivot {field : String} (h : q.pivot field rows = .ok p) :
    ∀ v ∈ p.names, P v := by
  obtain ⟨series, hseries, h⟩ := bind_eq_ok.mp h
  obtain rfl := pure_eq_ok.mp h
  refine forall_names_axis htext ht fun s hs => ?_
  obtain ⟨name, -, hname⟩ := of_mem_of_mapM_eq_ok hseries hs
  obtain ⟨amounts, -, hname⟩ := bind_eq_ok.mp hname
  obtain rfl := pure_eq_ok.mp hname
  exact htext name

theorem forall_names_plain (h : q.plain rows = .ok p) : ∀ v ∈ p.names, P v := by
  obtain ⟨series, hseries, h⟩ := bind_eq_ok.mp h
  obtain rfl := pure_eq_ok.mp h
  refine forall_names_axis htext ht fun s hs => ?_
  obtain ⟨field, -, hfield⟩ := of_mem_of_mapM_eq_ok hseries hs
  obtain ⟨xs, -, hfield⟩ := bind_eq_ok.mp hfield
  obtain rfl := pure_eq_ok.mp hfield
  dsimp only
  split
  · exact forall_orElse ht.legend (htext field)
  · exact htext field

/-- A plot made of rows takes its names from the titles and from the names of columns. -/
theorem forall_names (h : q.plot rows = .ok p) : ∀ v ∈ p.names, P v := by
  unfold plot at h
  split at h
  · exact forall_names_pie htext ht h
  split at h
  · obtain ⟨shapes, -, h⟩ := bind_eq_ok.mp h
    obtain rfl := pure_eq_ok.mp h
    exact fun _ hv => absurd hv List.not_mem_nil
  split at h
  · obtain ⟨clouds, -, h⟩ := bind_eq_ok.mp h
    obtain rfl := pure_eq_ok.mp h
    rw [Plot.names, List.forall_mem_cons, List.forall_mem_singleton]
    exact ⟨forall_xName htext ht, forall_yName htext ht⟩
  split at h
  · exact forall_names_pivot htext ht h
  · exact forall_names_plain htext ht h

end Request

section Spec

variable {q : Request} {rows : List Record} {spec : Spec}

theorem exists_plot_of_spec (h : q.spec rows = .ok spec) :
    ∃ plot, q.plot rows = .ok plot ∧ spec = ⟨q.title, plot⟩ := by
  obtain ⟨_, -, h⟩ := bind_eq_ok.mp h
  obtain ⟨plot, hplot, h⟩ := bind_eq_ok.mp h
  exact ⟨plot, hplot, (pure_eq_ok.mp h).symm⟩

/-- The chart of any rows is in range when its titles are. -/
theorem inRange_spec (ht : q.titles.All (·.inRange = true)) (h : q.spec rows = .ok spec) :
    (object spec.toRecord).inRange = true := by
  obtain ⟨plot, hplot, rfl⟩ := exists_plot_of_spec h
  have hparts := inRange_object.mp (Plot.inRange_toRecord (q.forall_names inRange_text ht hplot))
  rw [Spec.toRecord, inRange_object, List.forall_mem_cons]
  exact ⟨by simp [titleDatum, q.forall_title inRange_text ht], hparts⟩

/-- The chart of any rows is not deep when its titles have no parts. -/
theorem levels_spec (ht : q.titles.All (·.levels = 0)) (h : q.spec rows = .ok spec) :
    (object spec.toRecord).levels ≤ 6 := by
  obtain ⟨plot, hplot, rfl⟩ := exists_plot_of_spec h
  have hparts := levels_object_le.mp (Plot.levels_toRecord (q.forall_names levels_text ht hplot))
  have htitle : q.title.levels = 0 := q.forall_title levels_text ht
  rw [Spec.toRecord, levels_object_le, List.forall_mem_cons]
  refine ⟨levels_object_le.mpr (List.forall_mem_singleton.mpr ?_), hparts⟩
  exact htitle ▸ Nat.zero_le 4

end Spec

/-! ## Finished charts -/

variable {chart names : Record}

theorem inRange_themed (theme : Option String) {colors : List Datum}
    (hcolors : ∀ v ∈ colors, v.inRange = true) (h : (object chart).inRange = true) :
    (object (themed theme colors chart)).inRange = true := by
  unfold themed
  extract_lets preset filled
  have hfilled : (object filled).inRange = true :=
    inRange_setIfAbsent (inRange_setIfAbsent h (inRange_texts _) _) rfl _
  split
  · exact inRange_set hfilled (inRange_list.mpr hcolors) _
  · exact hfilled

section Renamed

variable (hnames : (object names).inRange = true)

include hnames

theorem inRange_of_newName? {v new : Datum} (h : newName? names v = some new) :
    new.inRange = true :=
  inRange_object.mp hnames _ (Keyed.mem_of_get? h)

theorem inRange_renamedSeries {v : Datum} (h : v.inRange = true) :
    (renamedSeries names v).inRange = true := by
  unfold renamedSeries
  split
  · split
    · rename_i new hnew
      split
      · exact inRange_set h (inRange_of_newName? hnames hnew) _
      · exact h
    · exact h
  · exact h

theorem inRange_renamedEntry {v : Datum} (h : v.inRange = true) :
    (renamedEntry names v).inRange = true := by
  unfold renamedEntry
  cases hnew : newName? names v with
  | none => exact h
  | some new => exact inRange_of_newName? hnames hnew

theorem inRange_renamedLegend {legend : Record} (h : (object legend).inRange = true) :
    (object (renamedLegend names legend)).inRange = true := by
  unfold renamedLegend
  split
  · rename_i entries hentries
    have hrange : ∀ v ∈ entries, v.inRange = true := inRange_list.mp (hentries ▸ inRange_get h _)
    refine inRange_set h (inRange_list.mpr fun v hv => ?_) _
    obtain ⟨entry, hentry, rfl⟩ := List.mem_map.mp hv
    exact inRange_renamedEntry hnames (hrange entry hentry)
  · exact h

theorem inRange_renamed (h : (object chart).inRange = true) :
    (object (renamed names chart)).inRange = true := by
  unfold renamed
  extract_lets named
  have hnamed : (object named).inRange = true := by
    unfold named
    split
    · rename_i series hseries
      have hrange : ∀ v ∈ series, v.inRange = true := inRange_list.mp (hseries ▸ inRange_get h _)
      refine inRange_set h (inRange_list.mpr fun v hv => ?_) _
      obtain ⟨serie, hserie, rfl⟩ := List.mem_map.mp hv
      exact inRange_renamedSeries hnames (hrange serie hserie)
    · exact h
  split
  · rename_i legend hlegend
    exact inRange_set hnamed (inRange_renamedLegend hnames (hlegend ▸ inRange_get hnamed _)) _
  · exact hnamed

end Renamed

theorem inRange_newNames (aliases : Aliases) : (object (newNames aliases)).inRange = true := by
  rw [inRange_object, newNames, List.forall_mem_map]
  intro p _
  exact inRange_text p.2

theorem inRange_withLegend {shown : Datum} (hshown : shown.inRange = true)
    (h : (object chart).inRange = true) : (object (withLegend shown chart)).inRange = true :=
  inRange_set h (inRange_set (inRange_members (inRange_get h "legend")) hshown _) _

theorem inRange_dressed (theme : Option String) {colors : List Datum} {shown : Datum}
    (hcolors : ∀ v ∈ colors, v.inRange = true) (hnames : (object names).inRange = true)
    (hshown : shown.inRange = true) (h : (object chart).inRange = true) :
    (object (dressed theme colors names shown chart)).inRange = true := by
  have hnamed := inRange_renamed hnames (inRange_themed theme hcolors h)
  unfold dressed
  extract_lets named
  split
  · exact hnamed
  · exact inRange_withLegend hshown hnamed

end ChartBoard.Chart
