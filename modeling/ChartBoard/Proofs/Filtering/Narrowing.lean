import ChartBoard.Proofs.Filtering.Shape

/-!
# Narrowed charts

What a filter leaves of a chart in line with its labels, as long as it leaves anything: the labels
that are allowed, in order, and every point under its own label.

* `Narrowed` says that of a chart and what is left of it.
* `narrowed_filteredAxis` and `narrowed_filteredPie` are about the two kinds of restriction.
* `filtered_of_axisField` says that a filter on the column of the X axis is such a restriction.
-/

namespace ChartBoard.Filtering

open Chart (IsSerie)
open Relationship (Field)
open Widget (Source)

variable {chart narrowed : Record} {kind : String} {allowed : List String}
  {keeps : Datum → Bool} {labels series : List Datum}

/-! ## Points under labels -/

/-- The points under the labels that are kept. -/
def pointsUnder (keeps : Datum → Bool) (labels points : List Datum) : List Datum :=
  ((labels.zip points).filter fun p => keeps p.1).map (·.2)

theorem pick_eq_filter (keeps : Datum → Bool) (labels : List Datum) :
    pick (labels.map keeps) labels = labels.filter keeps := by
  induction labels with
  | nil => rfl
  | cons v labels ih =>
    rw [List.map_cons, List.filter_cons]
    cases keeps v with
    | true => exact congrArg (v :: ·) ih
    | false => exact ih

theorem pick_eq_pointsUnder (keeps : Datum → Bool) (labels points : List Datum) :
    pick (labels.map keeps) points = pointsUnder keeps labels points := by
  unfold pointsUnder
  induction labels generalizing points with
  | nil => rfl
  | cons v labels ih =>
    cases points with
    | nil =>
      rw [List.map_cons]
      cases keeps v <;> rfl
    | cons point points =>
      rw [List.map_cons, List.zip_cons_cons, List.filter_cons]
      cases keeps v with
      | true => exact congrArg (point :: ·) (ih points)
      | false => exact ih points

theorem pointsUnder_of_all {points : List Datum} (hall : ∀ v ∈ labels, keeps v = true)
    (hlength : points.length = labels.length) : pointsUnder keeps labels points = points := by
  have hkept : (labels.zip points).filter (fun p => keeps p.1) = labels.zip points :=
    List.filter_eq_self.mpr fun p hp => hall p.1 (List.of_mem_zip hp).1
  rw [pointsUnder, hkept, List.map_snd_zip (Nat.le_of_eq hlength)]

/-! ## Narrowed charts -/

/-- What is left of a chart when only some of its labels are kept, each with its own points. -/
inductive Narrowed (keeps : Datum → Bool) (chart narrowed : Record) : Prop
  /-- Bars and lines: the kept labels, and of every series the points under them. -/
  | axis {axis : Record} {labels series : List Datum}
      (hxAxis : Record.get chart "xAxis" = .object axis)
      (hlabels : Record.get axis "data" = .list labels)
      (hseries : Record.get chart "series" = .list series)
      (haligned : ∀ v ∈ series, ∃ points, v.get "data" = .list points ∧
        points.length = labels.length)
      (hnarrowed : narrowed = Record.set
        (Record.set chart "xAxis" (.object (Record.set axis "data" (.list (labels.filter keeps)))))
        "series" (.list (series.map (withPoints (pointsUnder keeps labels)))))
  /-- Pies: the slices with a kept name. -/
  | pie {first : Record} {slices : List Datum}
      (hseries : Record.get chart "series" = .list [.object first])
      (hslices : Record.get first "data" = .list slices)
      (hnarrowed : narrowed = Record.set chart "series" (.list [.object (Record.set first "data"
        (.list (slices.filter fun v => keeps (v.get "name"))))]))

/-- Narrowing a chart leaves all of it alone but the X axis and the series. -/
theorem Narrowed.get_of_ne {name : String} (h : Narrowed keeps chart narrowed)
    (hxAxis : "xAxis" ≠ name := by decide) (hseries : "series" ≠ name := by decide) :
    Record.get narrowed name = Record.get chart name := by
  cases h with
  | axis _ _ _ _ hnarrowed =>
    rw [hnarrowed, Record.get_set, if_neg hseries, Record.get_set, if_neg hxAxis]
  | pie _ _ hnarrowed => rw [hnarrowed, Record.get_set, if_neg hseries]

/-! ## Restrictions -/

/-- True of the labels that are allowed. -/
def isAllowed (allowed : List String) (v : Datum) : Bool := allowed.contains (normalLabel v)

section Axis

variable {axis : Record} (hxAxis : Record.get chart "xAxis" = .object axis)
  (hlabels : Record.get axis "data" = .list labels)
  (hseries : Record.get chart "series" = .list series)
  (haligned : ∀ v ∈ series, IsSerie kind labels.length v)

include haligned in
theorem exists_points :
    ∀ v ∈ series, ∃ points, v.get "data" = .list points ∧ points.length = labels.length := by
  intro v hv
  obtain ⟨members, points, rfl, -, hpoints, hlength⟩ := haligned v hv
  exact ⟨points, hpoints, hlength⟩

include haligned in
theorem map_withPoints_of_all (hall : ∀ v ∈ labels, keeps v = true) :
    series.map (withPoints (pointsUnder keeps labels)) = series := by
  have hsame : ∀ v ∈ series, withPoints (pointsUnder keeps labels) v = id v := by
    intro v hv
    obtain ⟨members, points, rfl, -, hpoints, hlength⟩ := haligned v hv
    simp only [withPoints, hpoints, pointsUnder_of_all hall hlength]
    rw [Record.set_of_get members "data" _ hpoints (by simp), id]
  rw [List.map_congr_left hsame, List.map_id]

include hxAxis hlabels hseries haligned in
/-- Where a label is allowed, just the allowed ones are kept. -/
theorem narrowed_filteredAxis (hany : ∃ v ∈ labels, isAllowed allowed v = true) :
    Narrowed (isAllowed allowed) chart ((filteredAxis? allowed chart).getD chart) := by
  refine .axis hxAxis hlabels hseries (exists_points haligned) ?_
  simp only [filteredAxis?, hxAxis, hseries, hlabels]
  have hkeep : (fun v => allowed.contains (normalLabel v)) = isAllowed allowed := rfl
  rw [hkeep]
  split
  · -- the chart is left as it is; narrowing it to all of its labels writes the same members again
    rename_i hkept
    have hall : ∀ v ∈ labels, isAllowed allowed v = true := by simpa using hkept
    have haxis : Record.set axis "data" (.list labels) = axis :=
      Record.set_of_get axis "data" _ hlabels (by simp)
    have hchart : Record.set chart "xAxis" (.object axis) = chart :=
      Record.set_of_get chart "xAxis" _ hxAxis (by simp)
    rw [map_withPoints_of_all haligned hall, List.filter_eq_self.mpr hall, haxis, hchart,
      Record.set_of_get chart "series" _ hseries (by simp), Option.getD_none]
  · split
    · have hpick : pick (labels.map (isAllowed allowed)) = pointsUnder (isAllowed allowed) labels :=
        funext fun points => pick_eq_pointsUnder _ labels points
      rw [Option.getD_some, pick_eq_filter, hpick]
    · rename_i hnone
      exact absurd (by simpa using hany) hnone

end Axis

section Pie

variable {first : Record} {slices : List Datum}
  (hseries : Record.get chart "series" = .list [.object first])
  (hslices : Record.get first "data" = .list slices)
  (hobjects : ∀ v ∈ slices, v.isObject = true)

include hseries hslices hobjects in
/-- Where a slice is allowed, just the allowed ones are kept. -/
theorem narrowed_filteredPie (hany : ∃ v ∈ slices, isAllowed allowed (v.get "name") = true) :
    Narrowed (isAllowed allowed) chart ((filteredPie? allowed chart).getD chart) := by
  refine .pie hseries hslices ?_
  have hkeep : slices.filter (isAllowedSlice allowed) =
      slices.filter fun v => isAllowed allowed (v.get "name") := by
    refine List.filter_congr fun v hv => ?_
    rw [isAllowedSlice, hobjects v hv, Bool.true_and, isAllowed]
  simp only [filteredPie?, hseries, hslices, hkeep]
  split
  · rename_i hkept
    have hall : slices.filter (fun v => isAllowed allowed (v.get "name")) = slices :=
      List.filter_eq_self.mpr (List.length_filter_eq_length_iff.mp hkept)
    rw [hall, Record.set_of_get first "data" _ hslices (by simp),
      Record.set_of_get chart "series" _ hseries (by simp), Option.getD_none]
  · obtain ⟨v, hv, hallowed⟩ := hany
    have hkept : v ∈ slices.filter fun v => isAllowed allowed (v.get "name") :=
      List.mem_filter.mpr ⟨hv, hallowed⟩
    rw [if_neg (by simpa using List.ne_nil_of_mem hkept), Option.getD_some]

end Pie

/-! ## A filter on the X axis -/

theorem allowedLabels?_of_axisField {s : Source} {field : Field} (hfield : axisField? s = some field)
    (value : Datum) :
    allowedLabels? [⟨field.table, field.column, [value]⟩] s (.object chart) =
      some [normalLabel value] := by
  simp [allowedLabels?, hfield, withValues, concerns, distinctTexts, Datum.isNull]

theorem filtered_of_axisField {s : Source} {field : Field} (hfield : axisField? s = some field)
    (value : Datum) :
    filtered [⟨field.table, field.column, [value]⟩] s chart =
      (if s.kind == "pie" then filteredPie? [normalLabel value] chart
        else filteredAxis? [normalLabel value] chart).getD chart := by
  rw [filtered, filtered?, allowedLabels?_of_axisField hfield]

/-- A filter with a table, a column and a value is read from its own description. -/
theorem validFilters_toDatum {f : ActiveFilter} (htable : f.table ≠ "") (hcolumn : f.column ≠ "")
    (hvalues : f.values ≠ []) : validFilters [f.toDatum] = [f] := by
  have htruthy : ((Datum.text f.table).truthy && (Datum.text f.column).truthy) = true := by
    simp [Datum.truthy, htable, hcolumn]
  have hread : ActiveFilter.ofDatum? f.toDatum = some f := if_pos htruthy
  simp [validFilters, withValues, hread, hvalues]

end ChartBoard.Filtering
