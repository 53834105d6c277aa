import ChartBoard.Filtering.Matching
import ChartBoard.Proofs.Chart.Shape

/-!
# Filters keep the shape of charts

A filter drops the labels that it does not allow and, from every series, the points at the same
positions; or it leaves neither labels nor points.  So a chart in line with its labels stays so, and
its legend still lists its series.

* `length_pick` says that the positions alone decide how much is kept.
* `shaped_filteredAxis` and `shaped_filteredPie` are about the two kinds of restriction,
  `shaped_filtered` is the result.
-/

namespace ChartBoard.Filtering

open Chart (IsSerie Shaped)
open Widget (Source)

variable {chart chart' : Record} {kind : String} {allowed : List String}

/-! ## Points -/

theorem length_pick {α β : Type} (keep : List Bool) {xs : List α} {ys : List β}
    (h : xs.length = ys.length) : (pick keep xs).length = (pick keep ys).length := by
  induction keep generalizing xs ys with
  | nil => rw [pick, pick] <;> simp
  | cons b keep ih =>
    cases xs with
    | nil =>
      obtain rfl := List.length_eq_zero_iff.mp h.symm
      cases b <;> rfl
    | cons x xs =>
      cases ys with
      | nil => cases h
      | cons y ys =>
        have hrest := ih (Nat.succ.inj h)
        cases b with
        | true => exact congrArg (· + 1) hrest
        | false => exact hrest

/-- Restricting the points of a series leaves all else of it alone. -/
theorem get_withPoints {change : List Datum → List Datum} {name : String} (v : Datum)
    (hname : "data" ≠ name := by decide) : (withPoints change v).get name = v.get name := by
  cases v with
  | object serie =>
    simp only [withPoints]
    split
    · rw [Datum.get_object, Datum.get_object, Record.get_set, if_neg hname]
    · rfl
  | _ => rfl

theorem isSerie_withPoints {change : List Datum → List Datum} {size size' : Nat} {v : Datum}
    (hchange : ∀ points, points.length = size → (change points).length = size')
    (h : IsSerie kind size v) : IsSerie kind size' (withPoints change v) := by
  obtain ⟨members, points, rfl, htype, hpoints, hsize⟩ := h
  have hset : withPoints change (.object members) =
      .object (Record.set members "data" (.list (change points))) := by
    simp only [withPoints, hpoints]
  exact ⟨_, change points, hset, by simp [htype], by simp, hchange points hsize⟩

theorem emptied_eq_withPoints {size : Nat} {v : Datum} (h : IsSerie kind size v) :
    emptied v = withPoints (fun _ => []) v := by
  obtain ⟨members, points, rfl, -, hpoints, -⟩ := h
  simp only [emptied, withPoints, hpoints]

/-! ## Charts -/

/-- A chart stays in line with its labels when these and all its points are restricted alike. -/
theorem shaped_restricted {axis : Record} {labels labels' series : List Datum}
    {change : List Datum → List Datum} (hkind : kind = "bar" ∨ kind = "line")
    (haligned : ∀ v ∈ series, IsSerie kind labels.length v)
    (hlegend : Chart.Lists (Record.get chart "legend") (series.map (·.get "name")))
    (hchange : ∀ points, points.length = labels.length → (change points).length = labels'.length) :
    Shaped (Record.set
      (Record.set chart "xAxis" (.object (Record.set axis "data" (.list labels'))))
      "series" (.list (series.map (withPoints change)))) kind := by
  refine @Shaped.axis _ _ (Record.set axis "data" (.list labels')) labels'
    (series.map (withPoints change)) hkind ?_ ?_ ?_ ?_ ?_
  · simp
  · simp
  · simp
  · intro v hv
    obtain ⟨serie, hserie, rfl⟩ := List.mem_map.mp hv
    exact isSerie_withPoints hchange (haligned serie hserie)
  · have hnames : (series.map (withPoints change)).map (·.get "name") =
        series.map (·.get "name") := by
      rw [List.map_map]
      exact List.map_congr_left fun serie _ => get_withPoints serie
    rw [hnames]
    simpa using hlegend

/-- Restricting the categories keeps the shape; charts without categories stay as they are. -/
theorem shaped_filteredAxis (hpie : kind ≠ "pie") (h : Shaped chart kind)
    (hchart' : filteredAxis? allowed chart = some chart') : Shaped chart' kind := by
  cases h with
  | @axis _ axis labels series hkind hx hlabels hs haligned hl =>
    simp only [filteredAxis?, hx, hs, hlabels] at hchart'
    split at hchart'
    · cases hchart'
    split at hchart'
    · obtain rfl := Option.some.inj hchart'
      exact shaped_restricted hkind haligned hl fun _ hlength => length_pick _ hlength
    · -- no category is left: the chart is marked, and all its series are emptied
      obtain rfl := Option.some.inj hchart'
      have hempty : series.map emptied = series.map (withPoints fun _ => []) :=
        List.map_congr_left fun v hv => emptied_eq_withPoints (haligned v hv)
      have hmarked : Record.get (marked chart) "legend" = Record.get chart "legend" := by
        simp [marked, Figure.emptyMark]
      rw [hempty]
      exact shaped_restricted hkind haligned (hmarked ▸ hl) fun _ _ => rfl
  | pie => exact absurd rfl hpie
  | radar hx => simp [filteredAxis?, hx] at hchart'
  | scatter hx hlabels hs => simp [filteredAxis?, hx, hlabels, hs] at hchart'

/-- Restricting the slices keeps the shape of a pie. -/
theorem shaped_filteredPie (hpie : kind = "pie") (h : Shaped chart kind)
    (hchart' : filteredPie? allowed chart = some chart') : Shaped chart' kind := by
  cases h with
  | axis hkind => simp [hpie] at hkind
  | @pie first hs htype =>
    simp only [filteredPie?, hs] at hchart'
    split at hchart'
    · split at hchart'
      · cases hchart'
      · obtain rfl := Option.some.inj hchart'
        exact .pie (by rw [Record.get_set, if_pos rfl]) (by simp [htype])
    · cases hchart'
  | radar => exact absurd hpie (by decide)
  | scatter => exact absurd hpie (by decide)

/-- Filters keep the shape of the chart of a widget. -/
theorem shaped_filtered {filters : List ActiveFilter} {s : Source} (h : Shaped chart s.kind) :
    Shaped (filtered filters s chart) s.kind := by
  unfold filtered filtered?
  split
  · exact h
  · rename_i allowed hallowed
    split
    · rename_i hpie
      have hkind : s.kind = "pie" := beq_iff_eq.mp hpie
      cases hfiltered : filteredPie? allowed chart with
      | none => exact h
      | some chart' => exact shaped_filteredPie hkind h hfiltered
    · rename_i hpie
      have hkind : s.kind ≠ "pie" := fun hkind => hpie (beq_iff_eq.mpr hkind)
      cases hfiltered : filteredAxis? allowed chart with
      | none => exact h
      | some chart' => exact shaped_filteredAxis hkind h hfiltered

end ChartBoard.Filtering
