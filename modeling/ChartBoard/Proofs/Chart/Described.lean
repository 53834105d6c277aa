import ChartBoard.Proofs.Chart.Shape
import ChartBoard.Proofs.Datum.Label

/-!
# Described charts

A specification is described by the record that is made of it, and by that record once it is
finished.  Of what a figure looks at, finishing changes the names of the series only.

* `Describes` says which records describe a specification, and under which new names.
* `Describes.get` and `Describes.get_series` are the members of such a record.
* `shownName` is the name of a series in it, `label_name_renamedSeries` says so.
-/

namespace ChartBoard.Chart

/-- A description of a specification, as it is made or as it is finished with new names. -/
inductive Describes (spec : Spec) : (names chart : Record) → Prop
  | made : Describes spec [] spec.toRecord
  | finished {limits : Limits} {theme : Option String} {colors : List Datum} {names : Record}
      {showLegend : Datum} {chart : Record}
      (h : Chart.finished limits theme colors names showLegend spec.toRecord = .ok chart) :
      Describes spec names chart

/-! ## Series -/

/-- The series that describes a pie. -/
def pieSerie (name : Datum) (slices : List Slice) : Datum :=
  .object [("name", name), ("type", .text "pie"), ("data", .list (slices.map Slice.toDatum))]

/-- The series that describes a radar chart. -/
def radarSerie (shapes : List (String × List Float)) : Datum :=
  .object [("name", .text "Radar"), ("type", .text "radar"),
    ("data", .list (shapes.map shapeDatum))]

/-- The series that describe a plot, and their kind. -/
def Plot.described : Plot → String × List Datum
  | axis kind _ _ _ series => (kind, series.map (·.toDatum kind))
  | pie name slices => ("pie", [pieSerie name slices])
  | radar _ shapes => ("radar", [radarSerie shapes])
  | scatter _ _ clouds => ("scatter", clouds.map cloudDatum)

theorem get_series_toRecord (spec : Spec) :
    Record.get spec.toRecord "series" = .list spec.plot.described.2 := by
  obtain ⟨title, plot⟩ := spec
  cases plot <;> simp [Spec.toRecord, Plot.toRecord, Plot.described, pieSerie, radarSerie]

theorem isOf_of_mem_described (plot : Plot) :
    ∀ v ∈ plot.described.2, IsOf plot.described.1 v := by
  cases plot with
  | axis kind _ _ _ series =>
    exact List.forall_mem_map.mpr fun s _ => ⟨_, rfl, by simp [Plot.described]⟩
  | pie name slices => exact List.forall_mem_singleton.mpr ⟨_, rfl, by simp [Plot.described]⟩
  | radar _ shapes => exact List.forall_mem_singleton.mpr ⟨_, rfl, by simp [Plot.described]⟩
  | scatter _ _ clouds =>
    exact List.forall_mem_map.mpr fun _ _ => ⟨_, rfl, by simp [Plot.described]⟩

/-! ## New names -/

/-- The name that a series is shown by: its new name, unless that is empty, else its own. -/
def shownName (names : Record) (name : Datum) : String :=
  (((newName? names name).filter Datum.truthy).getD name).label

section Renamed

variable {names : Record}

theorem map_renamedSeries_nil (series : List Datum) : series.map (renamedSeries []) = series :=
  List.map_id'' (fun v => by cases v <;> rfl) series

theorem shownName_ne_empty {name : Datum} (h : name.label ≠ "") : shownName names name ≠ "" := by
  unfold shownName
  cases hnew : (newName? names name).filter Datum.truthy with
  | none => exact h
  | some new => exact Datum.label_ne_empty (Option.filter_eq_some_iff.mp hnew).2

theorem isObject_renamedSeries (v : Datum) : (renamedSeries names v).isObject = v.isObject := by
  cases v with
  | object members =>
    obtain ⟨members', hmembers', -⟩ := renamedSeries_object names members
    rw [hmembers']
    rfl
  | _ => rfl

theorem get_renamedSeries_of_ne (v : Datum) {other : String} (hname : "name" ≠ other) :
    (renamedSeries names v).get other = v.get other := by
  cases v with
  | object members =>
    unfold renamedSeries
    dsimp only
    cases newName? names (Record.get members "name") with
    | none => rfl
    | some new =>
      dsimp only
      split
      · rw [Datum.get_object, Record.get_set, if_neg hname, Datum.get_object]
      · rfl
  | _ => rfl

/-- The name of a series is the one that it is shown by. -/
theorem label_name_renamedSeries {v : Datum} (h : v.isObject = true) :
    ((renamedSeries names v).get "name").label = shownName names (v.get "name") := by
  cases v with
  | object members =>
    unfold renamedSeries shownName
    dsimp only [Datum.get_object]
    cases newName? names (Record.get members "name") with
    | none => rfl
    | some new => by_cases hnew : new.truthy = true <;> simp [Option.filter, hnew]
  | _ => cases h

end Renamed

/-- The members that a description has, finished or not. -/
def describedMembers : List String := ["title", "xAxis", "yAxis", "radar"] ++ finishedMembers

@[simp] theorem mem_describedMembers {name : String} : name ∈ describedMembers ↔
    (name = "title" ∨ name = "xAxis" ∨ name = "yAxis" ∨ name = "radar") ∨
      name ∈ finishedMembers := by
  rw [describedMembers, List.mem_append]
  simp

theorem get_toRecord_of_not_mem (spec : Spec) {name : String} (h : name ∉ describedMembers) :
    Record.get spec.toRecord name = .null := by
  simp only [mem_describedMembers, mem_finishedMembers, not_or] at h
  obtain ⟨⟨htitle, hxAxis, hyAxis, hradar⟩, hseries, hlegend, -, -⟩ := h
  obtain ⟨title, plot⟩ := spec
  have hempty : Record.get [] name = .null := rfl
  cases plot <;> simp [Spec.toRecord, Plot.toRecord, Ne.symm htitle, Ne.symm hxAxis, Ne.symm hyAxis,
    Ne.symm hradar, Ne.symm hseries, Ne.symm hlegend, hempty]

/-! ## Members -/

namespace Describes

variable {spec : Spec} {names chart : Record}

/-- Apart from what changes when it is finished, a description is that of the specification. -/
theorem get (h : Describes spec names chart) {name : String} (hname : name ∉ finishedMembers) :
    Record.get chart name = Record.get spec.toRecord name := by
  cases h with
  | made => rfl
  | finished h =>
    obtain ⟨-, rfl⟩ := finished_eq_ok.mp h
    exact get_dressed hname

/-- The series are those of the plot under their new names. -/
theorem get_series (h : Describes spec names chart) :
    Record.get chart "series" = .list (spec.plot.described.2.map (renamedSeries names)) := by
  cases h with
  | made => rw [get_series_toRecord, map_renamedSeries_nil]
  | finished h =>
    obtain ⟨-, rfl⟩ := finished_eq_ok.mp h
    exact get_dressed_series (get_series_toRecord spec)

theorem get_of_not_mem (h : Describes spec names chart) {name : String}
    (hname : name ∉ describedMembers) : Record.get chart name = .null := by
  rw [h.get fun hmem => hname (List.mem_append_right _ hmem), get_toRecord_of_not_mem spec hname]

theorem get_title (h : Describes spec names chart) :
    Record.get chart "title" = titleDatum spec.title := by
  rw [h.get (by simp), Spec.toRecord, Record.get_cons, if_pos rfl]

end Describes

end ChartBoard.Chart
