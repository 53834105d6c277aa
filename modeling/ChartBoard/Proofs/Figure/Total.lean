import ChartBoard.Figure.OfChart
import ChartBoard.Proofs.Chart.Total

/-!
# Charts that have a figure

A figure is made of numbers, and only an integer beyond the range of doubles is no number.  So every
chart with all its integers in range has a figure, whatever else is wrong with it.

* `ranged_ofChart` is that result, `ranged_drawn` its part for charts that can be drawn.
* `repair_and_figure_total` says the same of the repair of a chart that can be copied, and which kinds
  figures have.
* `not_repair_total` gives a chart that can be read but not copied, so that it has no repair.
-/

namespace ChartBoard.Figure

open Datum

variable {chart : Datum}

/-! ## Parts of charts in range -/

theorem inRange_of_mem_itemsIn {v : Datum} (h : v.inRange = true) (name : String) :
    ∀ w ∈ itemsIn v name, w.inRange = true := by
  unfold itemsIn
  cases hitems : (v.get name).asList? with
  | none => simp
  | some items => exact inRange_of_mem_asList? (inRange_get h name) hitems

theorem inRange_of_mem_seriesOf (h : chart.inRange = true) :
    ∀ serie ∈ seriesOf chart, serie.inRange = true := fun serie hserie =>
  inRange_of_mem_itemsIn h "series" serie (List.mem_filter.mp hserie).1

theorem inRange_of_mem_first (h : chart.inRange = true) (name : String) :
    ∀ w ∈ ((seriesOf chart).head?.map fun s => itemsIn s name).getD [], w.inRange = true := by
  cases hfirst : (seriesOf chart).head? with
  | none => simp
  | some first =>
    exact inRange_of_mem_itemsIn (inRange_of_mem_seriesOf h first (List.mem_of_head? hfirst)) name

/-! ## Numbers -/

section

variable {fits : Prop}

theorem ranged_numbersOf {values : List Datum} (h : ∀ v ∈ values, fits → v.inRange = true) :
    Ranged fits (numbersOf values) :=
  ranged_mapM fun v hv => (ranged_number v).mono (h v hv)

theorem ranged_lineOf {serie : Datum} (h : fits → serie.inRange = true) (member : String)
    (position : Nat) : Ranged fits (lineOf member serie position) :=
  (ranged_numbersOf fun v hv hfits => inRange_of_mem_itemsIn (h hfits) member v hv).bind
    fun _ _ => ranged_ok _

theorem ranged_lines {series : List Datum} (h : ∀ v ∈ series, fits → v.inRange = true)
    (member : String) :
    Ranged fits (series.zipIdx.mapM fun (v, i) => lineOf member v i) :=
  ranged_mapM fun (v, i) hv => ranged_lineOf (h v (List.fst_mem_of_mem_zipIdx hv)) member i

theorem ranged_serieTotal {serie : Datum} (h : fits → serie.inRange = true) :
    Ranged fits (serieTotal serie) := by
  unfold serieTotal
  split
  · rename_i points hpoints
    refine (ranged_numbersOf fun v hv hfits => ?_).map _
    exact inRange_list.mp (hpoints ▸ inRange_get (h hfits) "data") v hv
  · exact ranged_ok _

theorem ranged_pointOf {v : Datum} (h : fits → v.inRange = true) (labels : List Datum)
    (position : Nat) : Ranged fits (pointOf labels position v) := by
  unfold pointOf
  split
  · rename_i coordinates
    have hcoordinate (i : Nat) (hfits : fits) : (coordinates.getD i .null).inRange = true := by
      rw [List.getD_eq_getElem?_getD]
      cases hi : coordinates[i]? with
      | none => rfl
      | some w => exact inRange_list.mp (h hfits) w (List.mem_of_getElem? hi)
    exact ((ranged_number _).mono (hcoordinate 0)).bind fun _ _ =>
      ((ranged_number _).mono (hcoordinate 1)).bind fun _ _ => ranged_ok _
  · exact ((ranged_number _).mono h).bind fun _ _ => ranged_ok _

end

/-! ## Content by kind -/

section

variable (chart : Datum) (theme : Theme)

theorem ranged_pieOf : Ranged (chart.inRange = true) (pieOf chart theme) := by
  unfold pieOf
  extract_lets series
  split
  · rename_i first rest hfirst
    refine (ranged_numbersOf fun v hv h => ?_).bind fun _ _ => ranged_ok _
    obtain ⟨slice, hslice, rfl⟩ := List.mem_map.mp hv
    exact inRange_get (inRange_of_mem_first h "data" slice (hfirst ▸ hslice)) "value"
  · split
    · exact (ranged_mapM fun serie hserie => ranged_serieTotal fun h =>
        inRange_of_mem_seriesOf h serie hserie).bind fun _ _ => ranged_ok _
    · exact ranged_ok _

theorem ranged_radarOf : Ranged (chart.inRange = true) (radarOf chart theme) := by
  refine (ranged_lines (fun row hrow h => ?_) "value").bind fun _ _ => ranged_ok _
  exact inRange_of_mem_first h "data" row (List.mem_filter.mp hrow).1

theorem ranged_scatterOf : Ranged (chart.inRange = true) (scatterOf chart theme) := by
  refine (ranged_mapM fun (serie, i) hserie => ?_).bind fun _ _ => ranged_ok _
  refine (ranged_mapM fun (v, j) hv => ?_).bind fun _ _ => ranged_ok _
  refine ranged_pointOf (fun h => ?_) _ j
  have hrange := inRange_of_mem_seriesOf h serie (List.fst_mem_of_mem_zipIdx hserie)
  exact inRange_of_mem_itemsIn hrange "data" v (List.fst_mem_of_mem_zipIdx hv)

theorem ranged_axisOf (curved : Bool) :
    Ranged (chart.inRange = true) (axisOf chart curved theme) :=
  (ranged_lines (fun serie hserie h => inRange_of_mem_seriesOf h serie hserie) "data").bind
    fun _ _ => ranged_ok _

/-! ## Figures -/

theorem ranged_drawn : Ranged (chart.inRange = true) (drawn chart theme) := by
  unfold drawn
  cases kindOf chart with
  | pie => exact ranged_pieOf chart theme
  | radar => exact ranged_radarOf chart theme
  | scatter => exact ranged_scatterOf chart theme
  | line => exact ranged_axisOf chart theme true
  | bar => exact ranged_axisOf chart theme false

theorem barePie?_eq_some {values : List Datum} (h : barePie? chart = some values) :
    chart.get "series" = .list values := by
  unfold barePie? at h
  split at h
  · rename_i v rest hseries
    split at h
    · rw [hseries, Option.some.inj h]
    · cases h
  · cases h

/-- Every chart whose integers are in the range of doubles has a figure. -/
theorem ranged_ofChart : Ranged (chart.inRange = true) (ofChart chart theme) := by
  unfold ofChart
  split
  · exact ranged_ok _
  · split
    · rename_i values hbare
      refine (ranged_numbersOf fun v hv h => ?_).bind fun _ _ => ranged_ok _
      exact inRange_list.mp (barePie?_eq_some chart hbare ▸ inRange_get h "series") v hv
    · split
      · exact ranged_drawn chart theme
      · exact ranged_ok _

theorem kindName_mem (content : Content) :
    content.kindName ∈ ["bar", "line", "pie", "radar", "scatter"] := by
  cases content with
  | axis curved => cases curved <;> simp [Content.kindName]
  | _ => simp [Content.kindName]

/-- Whatever a chart and the rows to fall back on look like, nothing but an integer beyond the range
of doubles keeps the chart from being drawn, and nothing else keeps it from being repaired unless it
cannot be copied.  A chart that cannot be copied is never repaired. -/
theorem repair_and_figure_total (settings : Settings) (rows : List Record) :
    (Chart.Copyable settings.limits chart →
        Ranged (chart.inRange = true ∧ ∀ row ∈ rows, (object row).inRange = true)
          (Chart.repaired settings chart (.list (rows.map .object)))) ∧
      (¬ Chart.Copyable settings.limits chart →
        Chart.repaired settings chart (.list (rows.map .object)) = .error .tooDeepToCopy) ∧
      Ranged (chart.inRange = true) (ofChart chart theme) ∧
        ∀ figure, ofChart chart theme = .ok figure →
          figure.content.kindName ∈ ["bar", "line", "pie", "radar", "scatter"] := by
  refine ⟨fun hcopy => ?_, fun hdeep => ?_, ranged_ofChart chart theme,
    fun figure _ => kindName_mem figure.content⟩
  · exact Chart.ranged_repaired hcopy And.left
      (Chart.ranged_chartOfRows (fun row hrow h => h.2 row hrow) settings Chart.generatedTitle)
  · cases chart with
    | object r =>
      rw [Chart.copyable_object, Nat.not_le] at hdeep
      exact Chart.repaired_of_lt hdeep _
    | _ => exact absurd nofun hdeep

end

/-! ## Deep charts -/

theorem inRange_nestedList (n : Nat) : (nestedList n).inRange = true := by
  induction n with
  | zero => rfl
  | succ n ih => exact inRange_list.mpr (List.forall_mem_singleton.mpr ih)

/-- A chart of one bar, with nested lists that no figure looks at. -/
def deepChart (n : Nat) : Record :=
  [("series", .list [.object [("type", .text "bar"), ("data", .list [.int 0])]]),
   ("xAxis", .object [("data", .texts ["a"])]), ("extra", nestedList n)]

theorem inRange_deepChart (n : Nat) : (object (deepChart n)).inRange = true := by
  simp [deepChart, inRange_nestedList, inRange_zero]

theorem levels_deepChart {n : Nat} (h : 2 ≤ n) : (object (deepChart n)).levels = n + 2 := by
  have hextra := levels_nestedList n
  simp only [deepChart, texts, List.map_cons, List.map_nil, levels, itemLevels, memberLevels, hextra]
  omega

/-- All integers of such a chart are in range, and it can be read, but it has no repair. -/
theorem not_repair_total : ¬ ∀ (settings : Settings) (chart : Datum) (rows : List Record),
    chart.levels ≤ settings.limits.reading →
      Ranged (chart.inRange = true ∧ ∀ row ∈ rows, (object row).inRange = true)
        (Chart.repaired settings chart (.list (rows.map .object))) := by
  intro h
  have hlevels : (object (deepChart 600)).levels = 602 := levels_deepChart (by decide)
  have hread : (object (deepChart 600)).levels ≤ ({} : Settings).limits.reading := by
    rw [hlevels]
    decide
  have hdeep : ({} : Settings).limits.copying < (object (deepChart 600)).levels := by
    rw [hlevels]
    decide
  obtain ⟨made, hmade⟩ := (h {} (.object (deepChart 600)) [] hread).1
    ⟨inRange_deepChart 600, by simp⟩
  cases (Chart.repaired_of_lt hdeep _).symm.trans hmade

end ChartBoard.Figure
