import ChartBoard.Proofs.Chart.Total

/-!
# Pies of named slices

A pie may be given as objects with a name and a value.  A repair takes them apart into labels and
numbers and makes slices of them again, whatever else the chart holds.

* `exists_namedSlices` is what it makes of such points, `getElem?_repairedSeries` finds the series
  of a chart among the repaired ones.
* `repaired_namedPoints` says what becomes of the series in a repaired chart.  A key figure is not
  repaired at all, as in `not_repaired_namedPoints`.
-/

namespace ChartBoard.Chart

open Datum Result

variable {raw chart : Record} {axis : Option (List String)} {inferred labels : List String}
  {points : List Datum}

/-! ## Points with names -/

/-- Points that are objects with a name. -/
def Named (points : List Datum) : Prop :=
  ∀ p ∈ points, p.isObject = true ∧ (p.get "name").label ≠ ""

/-- The names of points. -/
def namesOf (points : List Datum) : List String := points.map fun p => (p.get "name").label

/-- A slice with the number that the value of a point means. -/
def OfPoint (p : Datum) (s : Slice) : Prop := (p.get "value").numberOrZero = .ok s.amount.toDatum

theorem isNull_of_label_ne_empty {v : Datum} (h : v.label ≠ "") : v.isNull = false := by
  cases v with
  | null => exact absurd rfl h
  | _ => rfl

theorem pointMembers?_of_name {first : Record} (h : (Record.get first "name").label ≠ "") :
    pointMembers? first = some ("name", "value") := by
  have hname : Record.has first "name" = true := by
    cases hget : Record.get? first "name" with
    | some v => rw [Record.has, hget]; rfl
    | none => rw [Record.get, hget] at h; exact absurd rfl h
  rw [pointMembers?, hname, Bool.or_true, if_pos rfl]

theorem plainPoints_of_named (h : Named points) (hne : points ≠ []) :
    plainPoints points = (points.mapM fun p : Datum => (p.get "value").numberOrZero).map
      fun values => (some (namesOf points), values) := by
  have hnames : (points.zipIdx.map fun q => pointLabel "name" q.1 q.2) = namesOf points := by
    have hlabel : ∀ q ∈ points.zipIdx, pointLabel "name" q.1 q.2 = (q.1.get "name").label :=
      fun q hq => if_neg (by
        simp [isNull_of_label_ne_empty (h q.1 (List.fst_mem_of_mem_zipIdx hq)).2])
    calc points.zipIdx.map (fun q => pointLabel "name" q.1 q.2)
        = points.zipIdx.map ((fun p : Datum => (p.get "name").label) ∘ Prod.fst) :=
          List.map_congr_left hlabel
      _ = namesOf points := by rw [← List.map_map, List.zipIdx_map_fst, namesOf]
  obtain ⟨first, rest, rfl⟩ := List.exists_cons_of_ne_nil hne
  obtain ⟨hobject, hname⟩ := h first List.mem_cons_self
  cases first with
  | object members =>
    have hmembers : pointMembers? members = some ("name", "value") := pointMembers?_of_name hname
    rw [plainPoints, ← hnames]
    simp only [hmembers]
    cases (Datum.object members :: rest).mapM fun p : Datum => (p.get "value").numberOrZero <;> rfl
  | _ => cases hobject

/-- Slices that get the names of as many labels have these names. -/
theorem names_namedSlices {names : List String} {amounts : List Amount}
    (hlength : names.length = amounts.length) (hnames : ∀ s ∈ names, s ≠ "") :
    (namedSlices names amounts).map (·.name) = names := by
  apply List.ext_getElem?
  intro i
  rw [List.getElem?_map, getElem?_namedSlices, Option.map_map]
  cases hname : names[i]? with
  | none =>
    have hamount : amounts[i]? = none := by
      rw [List.getElem?_eq_none_iff] at hname ⊢
      omega
    rw [hamount]
    rfl
  | some s =>
    obtain ⟨hi, -⟩ := List.getElem?_eq_some_iff.mp hname
    have hempty : s.isEmpty = false := by simpa using hnames s (List.mem_of_getElem? hname)
    rw [List.getElem?_eq_getElem (hlength ▸ hi)]
    simp [sliceName, hname, hempty]

/-- A repair makes a slice of each point, with its own name unless the axis lists labels. -/
theorem exists_namedSlices (h : Named points) {made : List String × List Datum}
    (hmade : seriePoints "pie" axis inferred points = .ok made) :
    ∃ slices : List Slice, made.2 = slices.map Slice.toDatum ∧
      List.Forall₂ OfPoint points slices ∧
      (axis = none → slices.map (·.name) = namesOf points) := by
  rw [seriePoints_eq] at hmade
  obtain ⟨found, hfound, hmade⟩ := bind_eq_ok.mp hmade
  rw [foundPoints, if_neg (by decide)] at hfound
  by_cases hne : points = []
  · subst hne
    obtain rfl := Except.ok.inj hfound
    obtain rfl := Except.ok.inj hmade
    exact ⟨[], rfl, .nil, fun _ => rfl⟩
  rw [plainPoints_of_named h hne] at hfound
  obtain ⟨values, hvalues, rfl⟩ := map_eq_ok.mp hfound
  obtain ⟨amounts, hfinal, rfl⟩ := exists_amounts hvalues
  have hplain : ((amounts.map Amount.toDatum).headD .null).isObject = false := by
    cases amounts with
    | nil => rfl
    | cons a rest => cases a <;> rfl
  rw [if_pos ⟨rfl, hplain⟩, Option.getD_some, slicesOf_amounts hfinal] at hmade
  obtain rfl := Except.ok.inj hmade
  have hread := mapM_eq_ok.mp hvalues
  rw [List.forall₂_map_right_iff] at hread
  have hlength : (namesOf points).length = amounts.length :=
    (List.length_map _).trans hread.length_eq
  have hamounts : (namedSlices (axis.getD (namesOf points)) amounts).map (·.amount) = amounts :=
    amounts_namedSlices
  rw [← hamounts, List.forall₂_map_right_iff] at hread
  refine ⟨_, rfl, hread, fun haxis => ?_⟩
  rw [haxis]
  exact names_namedSlices hlength (List.forall_mem_map.mpr fun p hp => (h p hp).2)

/-! ## Charts -/

/-- Each series is repaired with the labels that those before it leave. -/
theorem getElem?_repairedSeries {position : Nat} {vs ws : List Datum}
    (h : repairedSeries chart axis inferred position vs = .ok (labels, ws)) {k : Nat} {v : Datum}
    (hv : vs[k]? = some v) : ∃ before found w,
      repairedSerie chart axis before (position + k) v = .ok (found, w) ∧ ws[k]? = some w := by
  induction vs generalizing inferred position ws k with
  | nil => cases hv
  | cons u rest ih =>
    obtain ⟨⟨found, w⟩, hw, h⟩ := bind_eq_ok.mp h
    obtain ⟨⟨found', ws'⟩, hws, h⟩ := bind_eq_ok.mp h
    obtain ⟨rfl, rfl⟩ := Prod.mk.inj (Except.ok.inj h)
    cases k with
    | zero =>
      obtain rfl := Option.some.inj hv
      exact ⟨inferred, found, w, hw, rfl⟩
    | succ k =>
      obtain ⟨before, after, w', hw', hthere⟩ := ih hws hv
      exact ⟨before, after, w', by rwa [Nat.add_succ, ← Nat.succ_add], hthere⟩

/-- A pie series with slices for its points. -/
def pieWith (serie : Datum) (position : Nat) (slices : List Slice) : Datum :=
  .object (repairedMembers serie.members "pie" (nameOrNumber (serie.get "name") "Series" position)
    (slices.map Slice.toDatum))

theorem exists_pieWith {serie w : Datum} {position : Nat}
    (hkind : serieKind chart serie.members = "pie") (hdata : serie.get "data" = .list points)
    (hnamed : Named points)
    (h : repairedSerie chart axis inferred position serie = .ok (labels, w)) :
    ∃ slices, w = pieWith serie position slices ∧ List.Forall₂ OfPoint points slices ∧
      (axis = none → slices.map (·.name) = namesOf points) := by
  have hpoints : (Record.get serie.members "data").asList?.getD [] = points :=
    congrArg (fun v => v.asList?.getD []) hdata
  rw [repairedSerie_eq, hkind, hpoints] at h
  obtain ⟨made, hmade, h⟩ := map_eq_ok.mp h
  obtain ⟨slices, hslices, hpoints, hnames⟩ := exists_namedSlices hnamed hmade
  obtain ⟨-, rfl⟩ := Prod.mk.inj h
  rw [hslices]
  exact ⟨slices, rfl, hpoints, hnames⟩

theorem hasPoints_pieWith {serie : Datum} {position : Nat} {slices : List Slice}
    (h : slices ≠ []) : hasPoints (pieWith serie position slices) = true := by
  have hdata : (pieWith serie position slices).get "data" = .list (slices.map Slice.toDatum) := by
    simp [pieWith, repairedMembers]
  rw [hasPoints, hdata]
  simpa using h

/-- Whatever else a chart holds, a pie series of points with names gets a slice for each point, in
order, with the number that its value means, and with its name unless the X axis lists labels.  All
that can become of such a chart is a repaired one, or the chart of rows if there is no point in it.
A key figure stays as it is. -/
theorem repaired_namedPoints (settings : Settings) (rows : Datum) {series : List Datum} {k : Nat}
    {serie : Datum} (hdatasets : hasDatasets raw = false) (hseries : seriesOf? raw = some series)
    (hserie : series[k]? = some serie) (hkind : serieKind raw serie.members = "pie")
    (hdata : serie.get "data" = .list points) (hnamed : Named points)
    (hrange : ∀ v ∈ series, v.inRange = true)
    (hlevels : (object raw).levels ≤ settings.limits.copying) :
    ((Record.get raw "kpi").isObject = true →
      repaired settings (.object raw) rows = .ok (some raw)) ∧
    ((Record.get raw "kpi").isObject = false →
      ∃ made slices, made[k]? = some (pieWith serie k slices) ∧
        List.Forall₂ OfPoint points slices ∧
        (axisLabels? (Record.get raw "xAxis") = none → slices.map (·.name) = namesOf points) ∧
        ((∃ chart, repaired settings (.object raw) rows = .ok (some chart) ∧
            Record.get chart "series" = .list made) ∨
          (points = [] ∧
            repaired settings (.object raw) rows = fallbackChart settings rows))) := by
  rw [repaired_of_le hlevels]
  refine ⟨fun hkpi => mended_of_kpi hkpi settings rows, fun hkpi => ?_⟩
  have hplain : withoutDatasets raw = raw := withoutDatasets_of_not hdatasets
  have hranged : Ranged True
      (repairedSeries raw (axisLabels? (Record.get raw "xAxis")) [] 0 series) :=
    ranged_repairedSeries (fun v hv _ => hrange v hv) raw _ [] 0
  obtain ⟨⟨labels, made⟩, hmade⟩ := hranged.1 trivial
  obtain ⟨before, found, w, hw, hthere⟩ := getElem?_repairedSeries hmade hserie
  rw [Nat.zero_add] at hw
  obtain ⟨slices, rfl, hpoints, hnames⟩ := exists_pieWith hkind hdata hnamed hw
  refine ⟨made, slices, hthere, hpoints, hnames, ?_⟩
  let chart := withAxisLabels labels (Record.set raw "series" (.list made))
  have hresult : withRepairedSeries raw series = .ok chart := by
    rw [withRepairedSeries_eq, hmade]
    rfl
  have hlisted : Record.get chart "series" = .list made := by
    rw [Record.get, get?_withAxisLabels (by decide), Record.get?_set, if_pos rfl, Option.getD_some]
  have hmended : mended settings raw rows =
      if isDrawable (.object chart) then .ok (some chart) else fallbackChart settings rows := by
    rw [mended_of_series hkpi (hplain.symm ▸ hseries), hplain, hresult]
    rfl
  by_cases hempty : points = []
  · by_cases hdrawable : isDrawable (.object chart) = true
    · exact .inl ⟨chart, by rw [hmended, if_pos hdrawable], hlisted⟩
    · exact .inr ⟨hempty, by rw [hmended, if_neg hdrawable]⟩
  · have hne : slices ≠ [] := by
      rintro rfl
      cases hpoints
      exact hempty rfl
    have hdrawable : isDrawable (.object chart) = true := by
      rw [isDrawable, get_object, hlisted]
      exact List.any_eq_true.mpr ⟨_, List.mem_of_getElem? hthere, hasPoints_pieWith hne⟩
    exact .inl ⟨chart, by rw [hmended, if_pos hdrawable], hlisted⟩

/-- Two cities next to bars over labels of their own. -/
theorem repaired_namedPoints_cities :
    let points : List Datum := [.object [("name", .text "Rome"), ("value", .float 2.0)],
      .object [("name", .text "Oslo"), ("value", .text "n/a")]]
    let serie : Datum := .object [("type", .text "pie"), ("data", .list points)]
    let bars : Datum := .object [("data", .list [.object [("x", .text "Q1"), ("y", .float 1.0)]])]
    let raw : Record := [("series", .list [serie, bars])]
    Named points ∧ ∃ chart made slices,
      repaired {} (.object raw) .null = .ok (some chart) ∧ Record.get chart "series" = .list made ∧
        made[0]? = some (pieWith serie 0 slices) ∧ slices.map (·.name) = ["Rome", "Oslo"] := by
  intro points serie bars raw
  have hnamed : Named points := List.forall_mem_cons.mpr
    ⟨⟨rfl, by decide⟩, List.forall_mem_singleton.mpr ⟨rfl, by decide⟩⟩
  have hrange : ∀ v ∈ [serie, bars], v.inRange = true :=
    List.forall_mem_cons.mpr ⟨rfl, List.forall_mem_singleton.mpr rfl⟩
  have hkind : serieKind raw serie.members = "pie" := by decide +kernel
  have hserie : [serie, bars][0]? = some serie := rfl
  obtain ⟨-, hpie⟩ := repaired_namedPoints {} .null (rfl : hasDatasets raw = false) rfl hserie hkind
    rfl hnamed hrange (by decide)
  obtain ⟨made, slices, hthere, -, hnames, ⟨chart, hchart, hmade⟩ | ⟨hempty, -⟩⟩ := hpie rfl
  · exact ⟨hnamed, chart, made, slices, hchart, hmade, hthere, hnames rfl⟩
  · exact absurd hempty (List.cons_ne_nil _ _)

/-- The value of the slice of a key figure stays a text. -/
theorem not_repaired_namedPoints : ¬ ∀ (settings : Settings) (raw : Record) (rows : Datum)
    (series : List Datum) (k : Nat) (serie : Datum) (points : List Datum),
    hasDatasets raw = false → seriesOf? raw = some series → series[k]? = some serie →
      serieKind raw serie.members = "pie" → serie.get "data" = .list points → Named points →
      (∀ v ∈ series, v.inRange = true) → (object raw).levels ≤ settings.limits.copying →
      ∃ chart made slices, repaired settings (.object raw) rows = .ok (some chart) ∧
        Record.get chart "series" = .list made ∧ made[k]?.map (·.get "data") =
          some (.list (slices.map Slice.toDatum)) ∧
        List.Forall₂ OfPoint points slices ∧ slices.map (·.name) = namesOf points := by
  intro h
  let points : List Datum := [.object [("name", .text "Rome"), ("value", .text "5")]]
  let serie : Datum := .object [("type", .text "pie"), ("data", .list points)]
  let raw : Record := [("kpi", .object []), ("series", .list [serie])]
  have hnamed : Named points := List.forall_mem_singleton.mpr ⟨rfl, by decide⟩
  obtain ⟨chart, made, slices, hchart, hmade, hslices, -⟩ := h {} raw .null [serie] 0 serie points
    rfl rfl rfl (by decide +kernel) rfl hnamed (List.forall_mem_singleton.mpr rfl) (by decide)
  obtain rfl := Option.some.inj (Except.ok.inj hchart)
  obtain rfl := Datum.list.inj hmade
  have hdata : points = slices.map Slice.toDatum := Datum.list.inj (Option.some.inj hslices)
  cases slices with
  | nil => exact absurd hdata (List.cons_ne_nil _ _)
  | cons s rest =>
    have hvalue : Datum.text "5" = s.amount.toDatum :=
      congrArg (fun p => p.get "value") (List.cons.inj hdata).1
    cases hamount : s.amount with
    | none => rw [hamount] at hvalue; cases hvalue
    | some x => rw [hamount] at hvalue; cases hvalue

end ChartBoard.Chart
