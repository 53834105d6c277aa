import ChartBoard.Proofs.Chart.Amount
import ChartBoard.Proofs.Chart.Repair

/-!
# Charts that keep their points

Points that carry no labels, and are no slices to be made, are left alone by a repair.  A chart of
such points only gets a kind and a name for each of its series.  Slices are taken apart and made
again: with names they keep them, and their amounts are tidied up.

* `keptSerie` is a series with its kind and its name, `mended_of_keeps` says that the repaired
  chart lists such series and is the same otherwise.
* `slicedSerie` is a series of tidy slices, `mended_of_slices` says that a repaired pie lists it,
  with the names of its slices on the X axis.
-/

namespace ChartBoard.Chart

variable {chart : Record}

/-- A series with its kind, its name and the points that it has. -/
def keptSerie (chart : Record) (v : Datum) (position : Nat) : Datum :=
  .object (repairedMembers v.members (serieKind chart v.members)
    (nameOrNumber (v.get "name") "Series" position) ((v.get "data").asList?.getD []))

/-- A series whose points a repair leaves alone. -/
def KeepsPoints (chart : Record) (v : Datum) : Prop :=
  (Shown.others ((v.get "data").asList?.getD [])).Final (serieKind chart v.members)

section Members

variable (chart : Record) (v : Datum) (position : Nat)

@[simp] theorem get_type_keptSerie :
    (keptSerie chart v position).get "type" = .text (serieKind chart v.members) := by
  simp [keptSerie, repairedMembers]

@[simp] theorem get_name_keptSerie : (keptSerie chart v position).get "name" =
    .text (nameOrNumber (v.get "name") "Series" position) := by
  simp [keptSerie, repairedMembers]

@[simp] theorem get_data_keptSerie :
    (keptSerie chart v position).get "data" = .list ((v.get "data").asList?.getD []) := by
  simp [keptSerie, repairedMembers]

theorem hasPoints_keptSerie : hasPoints (keptSerie chart v position) = hasPoints v := by
  unfold hasPoints
  rw [get_data_keptSerie]
  cases v.get "data" <;> rfl

end Members

theorem repairedSerie_of_keeps {v : Datum} (h : KeepsPoints chart v)
    (axis : Option (List String)) (inferred : List String) (position : Nat) :
    repairedSerie chart axis inferred position v =
      .ok (inferred, keptSerie chart v position) := by
  have hpoints := Shown.seriePoints_shown h axis inferred
  rw [repairedSerie_eq]
  exact congrArg (Except.map _) hpoints

theorem repairedSeries_of_keeps {series : List Datum} (h : ∀ v ∈ series, KeepsPoints chart v)
    (axis : Option (List String)) (inferred : List String) (position : Nat) :
    repairedSeries chart axis inferred position series =
      .ok (inferred, (series.zipIdx position).map fun p => keptSerie chart p.1 p.2) := by
  induction series generalizing position with
  | nil => rfl
  | cons v rest ih =>
    rw [repairedSeries, repairedSerie_of_keeps (h v List.mem_cons_self)]
    dsimp only [bind, Except.bind]
    rw [ih fun w hw => h w (List.mem_cons_of_mem v hw)]
    rfl

/-- The chart with its series as a repair leaves them. -/
def keptChart (chart : Record) (series : List Datum) : Record :=
  Record.set chart "series" (.list (series.zipIdx.map fun p => keptSerie chart p.1 p.2))

theorem get_keptChart_of_ne {series : List Datum} {name : String} (h : "series" ≠ name) :
    Record.get (keptChart chart series) name = Record.get chart name := by
  rw [keptChart, Record.get_set, if_neg h]

theorem isDrawable_keptChart {series : List Datum}
    (hseries : Record.get chart "series" = .list series) :
    isDrawable (.object (keptChart chart series)) = isDrawable (.object chart) := by
  have hpoints : (hasPoints ∘ fun p => keptSerie chart p.1 p.2) = hasPoints ∘ Prod.fst :=
    funext fun p => hasPoints_keptSerie chart p.1 p.2
  rw [isDrawable, isDrawable, Datum.get_object, Datum.get_object, hseries, keptChart,
    Record.get_set, if_pos rfl]
  dsimp only
  rw [List.any_map, hpoints, ← List.any_map, List.zipIdx_map_fst]

/-- A chart of points that a repair leaves alone is the same but for its series. -/
theorem mended_of_keeps (hplain : Plain chart) {series : List Datum}
    (hseries : Record.get chart "series" = .list series) (h : ∀ v ∈ series, KeepsPoints chart v)
    (hdrawable : isDrawable (.object chart) = true) (settings : Settings) (rows : Datum) :
    mended settings chart rows = .ok (some (keptChart chart series)) := by
  have hdatasets := withoutDatasets_of_not hplain.not_hasDatasets
  have hseriesOf : seriesOf? (withoutDatasets chart) = some series := by
    rw [hdatasets, seriesOf?, hseries]
  have hmade : withRepairedSeries chart series = .ok (keptChart chart series) := by
    rw [withRepairedSeries_eq, repairedSeries_of_keeps h]
    exact congrArg Except.ok withAxisLabels_nil
  rw [mended_of_series hplain.not_kpi hseriesOf, hdatasets, hmade]
  exact if_pos (by rw [isDrawable_keptChart hseries, hdrawable])

/-! ## Slices -/

/-- A slice with its amount tidied up. -/
def Slice.tidied (s : Slice) : Slice := ⟨s.name, s.amount.tidied⟩

theorem seriePoints_slices {slices : List Slice} (hne : slices ≠ [])
    (hnamed : ∀ s ∈ slices, s.name ≠ "") (inferred : List String) :
    seriePoints "pie" none inferred (slices.map Slice.toDatum) =
      .ok (slices.map (·.name), (slices.map Slice.tidied).map Slice.toDatum) := by
  have hread : slices.mapM (fun s => s.amount.toDatum.numberOrZero) =
      .ok ((slices.map (·.amount.tidied)).map Amount.toDatum) := by
    rw [List.map_map]
    exact Result.mapM_eq_map fun s _ => s.amount.numberOrZero_toDatum
  have hfinal : ∀ a ∈ slices.map (·.amount.tidied), a.Final :=
    List.forall_mem_map.mpr fun s _ => (Datum.numberOrZero_eq_ok s.amount.numberOrZero_toDatum).2
  have hfound : foundPoints "pie" (slices.map Slice.toDatum) =
      .ok (some (slices.map (·.name)), (slices.map (·.amount.tidied)).map Amount.toDatum) := by
    rw [foundPoints, if_neg (by decide), plainPoints_of_mapM hne hread]
  have hplain : (((slices.map (·.amount.tidied)).map Amount.toDatum).headD .null).isObject =
      false := by
    cases slices with
    | nil => rfl
    | cons s rest => simp only [List.map_cons, List.headD_cons]; cases s.amount.tidied <;> rfl
  have hslices : namedSlices (slices.map (·.name)) (slices.map (·.amount.tidied)) =
      slices.map Slice.tidied := by
    have hkept : namedSlices ((slices.map Slice.tidied).map (·.name))
        ((slices.map Slice.tidied).map (·.amount)) = slices.map Slice.tidied :=
      namedSlices_names (List.forall_mem_map.mpr hnamed)
    rwa [List.map_map, List.map_map] at hkept
  rw [seriePoints_eq, hfound]
  refine (if_pos ⟨rfl, hplain⟩).trans ?_
  rw [Option.getD_none, Option.getD_some, slicesOf_amounts hfinal, hslices]
  rfl

/-- A series with the slices of a pie. -/
def slicedSerie (v : Datum) (slices : List Slice) : Datum :=
  .object (repairedMembers v.members "pie" (nameOrNumber (v.get "name") "Series" 0)
    (slices.map Slice.toDatum))

/-- A chart of a single series of slices, with their names on the X axis. -/
def slicedChart (chart : Record) (v : Datum) (slices : List Slice) : Record :=
  withAxisLabels (slices.map (·.name))
    (Record.set chart "series" (.list [slicedSerie v (slices.map Slice.tidied)]))

section Members

variable (chart : Record) (v : Datum) (slices : List Slice)

@[simp] theorem get_type_slicedSerie : (slicedSerie v slices).get "type" = .text "pie" := by
  simp [slicedSerie, repairedMembers]

@[simp] theorem get_data_slicedSerie :
    (slicedSerie v slices).get "data" = .list (slices.map Slice.toDatum) := by
  simp [slicedSerie, repairedMembers]

theorem get_series_slicedChart : Record.get (slicedChart chart v slices) "series" =
    .list [slicedSerie v (slices.map Slice.tidied)] := by
  rw [Record.get, slicedChart, get?_withAxisLabels (by decide), Record.get?_set, if_pos rfl,
    Option.getD_some]

end Members

theorem get_slicedChart_of_ne {v : Datum} {slices : List Slice} {name : String}
    (hxAxis : "xAxis" ≠ name) (hseries : "series" ≠ name) :
    Record.get (slicedChart chart v slices) name = Record.get chart name := by
  rw [Record.get, slicedChart, get?_withAxisLabels hxAxis, Record.get?_set, if_neg hseries,
    Record.get]

theorem isDrawable_slicedChart {v : Datum} {slices : List Slice} (hne : slices ≠ []) :
    isDrawable (.object (slicedChart chart v slices)) = true := by
  rw [isDrawable, Datum.get_object, get_series_slicedChart]
  simp [hasPoints, hne]

/-- A pie of slices with names keeps them, and its slices but for their tidy amounts. -/
theorem mended_of_slices (hplain : Plain chart) {v : Datum} {slices : List Slice}
    (hseries : Record.get chart "series" = .list [v]) (hkind : serieKind chart v.members = "pie")
    (hdata : v.get "data" = .list (slices.map Slice.toDatum))
    (haxis : axisLabels? (Record.get chart "xAxis") = none) (hne : slices ≠ [])
    (hnamed : ∀ s ∈ slices, s.name ≠ "") (settings : Settings) (rows : Datum) :
    mended settings chart rows = .ok (some (slicedChart chart v slices)) := by
  have hdatasets := withoutDatasets_of_not hplain.not_hasDatasets
  have hseriesOf : seriesOf? (withoutDatasets chart) = some [v] := by
    rw [hdatasets, seriesOf?, hseries]
  have hpoints : (Record.get v.members "data").asList?.getD [] = slices.map Slice.toDatum :=
    congrArg (fun w => w.asList?.getD []) hdata
  have hserie : repairedSerie chart none [] 0 v =
      .ok (slices.map (·.name), slicedSerie v (slices.map Slice.tidied)) := by
    rw [repairedSerie_eq, hkind, hpoints, seriePoints_slices hne hnamed]
    rfl
  have hmade : withRepairedSeries chart [v] = .ok (slicedChart chart v slices) := by
    rw [withRepairedSeries_eq, haxis, repairedSeries, hserie]
    rfl
  rw [mended_of_series hplain.not_kpi hseriesOf, hdatasets, hmade]
  exact if_pos (isDrawable_slicedChart hne)

end ChartBoard.Chart
