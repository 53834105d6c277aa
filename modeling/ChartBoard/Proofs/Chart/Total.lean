import ChartBoard.Proofs.Chart.Frequency
import ChartBoard.Proofs.Chart.Repair
import ChartBoard.Proofs.Text.Search

/-!
# Charts that can be repaired

A repair reads numbers, and so does the chart of the rows that it falls back on.  Nothing else in
them can go wrong: every value that can be copied has a repair, whatever its members are, as long as
all integers in it and in the rows are in range.

* `ranged_chartOfRows` is about the chart of rows, `ranged_repairedSeries` about the series of a
  chart, of which `forall_of_repairedSeries` says what is kept.
* `ranged_repaired` is the result.  `inRange_of_repaired` and `levels_of_repaired` say when what it
  gives can be repaired again.
* `ranged_repaired_chartOfRows` says that so can the chart of any rows.
-/

namespace ChartBoard.Chart

open Datum

variable {fits : Prop}

/-! ## Charts of rows -/

section

variable {rows : List Record}

theorem ranged_hasNumber (h : ∀ row ∈ rows, fits → (object row).inRange = true) (name : String) :
    Ranged fits (hasNumber name (rows.map .object)) := by
  induction rows with
  | nil => exact ranged_ok false
  | cons row rest ih =>
    have hcell (hfits : fits) : (Record.get row name).inRange = true :=
      inRange_get (h row List.mem_cons_self hfits) name
    refine Ranged.bind (ranged_ok (Record.get row name)) fun v hv => ?_
    obtain rfl := Except.ok.inj hv
    refine ((ranged_number? _).mono hcell).bind fun found _ => ?_
    split
    · exact ranged_ok true
    · exact ih fun row' hrow' => h row' (List.mem_cons_of_mem row hrow')

theorem ranged_numericColumns (h : ∀ row ∈ rows, fits → (object row).inRange = true)
    (skip : Option String) : Ranged fits (numericColumns (rows.map .object) skip) := by
  cases rows with
  | nil => exact ranged_ok []
  | cons first rest => exact ranged_filterM fun name _ => ranged_hasNumber h name

/-- A cell of rows that are objects is the value of its column. -/
theorem ranged_mapM_cell {shown : List Datum} (hshown : ∀ v ∈ shown, v ∈ rows.map Datum.object)
    (name : String) {β : Type} {read : Datum → Except Fault β}
    (hread : ∀ row ∈ rows, Ranged fits (read (Record.get row name))) :
    Ranged fits (shown.mapM fun v => cell name v >>= read) := by
  refine ranged_mapM fun v hv => ?_
  obtain ⟨row, hrow, rfl⟩ := List.mem_map.mp (hshown v hv)
  exact hread row hrow

theorem ranged_chartOfColumns (h : ∀ row ∈ rows, fits → (object row).inRange = true)
    (settings : Settings) (title : Datum) (x : String) :
    Ranged fits (chartOfColumns settings title x (rows.map .object)) := by
  unfold chartOfColumns
  refine (ranged_numericColumns h none).bind fun columns _ => ?_
  cases columns with
  | nil =>
    refine (ranged_mapM_cell (fun _ hv => hv) x fun row hrow => ?_).bind fun _ _ => ranged_ok _
    exact ranged_ok _
  | cons y _ =>
    have hshown : ∀ v ∈ Text.capped settings.fallbackTop (rows.map Datum.object),
        v ∈ rows.map Datum.object := fun v hv => Text.mem_of_mem_capped hv
    refine (ranged_mapM_cell hshown x fun row hrow => ?_).bind fun _ _ => ?_
    · exact ranged_ok _
    refine (ranged_mapM_cell hshown y fun row hrow => ?_).bind fun _ _ => ranged_ok _
    refine ((ranged_number _).mono fun hfits => ?_).bind fun _ _ => ranged_ok _
    exact inRange_get (h row hrow hfits) y

theorem ranged_chartOfRows (h : ∀ row ∈ rows, fits → (object row).inRange = true)
    (settings : Settings) (title : Datum) :
    Ranged fits (chartOfRows settings title (.list (rows.map .object))) := by
  have hrows : rowsOf (.list (rows.map .object)) = .ok (rows.map .object) := by
    cases rows <;> rfl
  unfold chartOfRows
  rw [hrows]
  refine Ranged.bind (ranged_ok _) fun read hread => ?_
  obtain rfl := Except.ok.inj hread
  split
  · rename_i x v first rest hfirst
    rw [← hfirst]
    exact (ranged_chartOfColumns h settings title x).bind fun _ _ => ranged_ok _
  · exact ranged_ok none

end

/-! ## Series -/

section

variable {points : List Datum}

theorem ranged_foundPoints (h : ∀ p ∈ points, fits → p.inRange = true) (kind : String) :
    Ranged fits (foundPoints kind points) := by
  unfold foundPoints plainPoints
  split
  · exact ranged_ok _
  split
  · split
    · rename_i label value _
      refine (ranged_mapM fun p hp => ?_).bind fun _ _ => ranged_ok _
      exact (ranged_numberOrZero _).mono fun hfits => inRange_get (h p hp hfits) value
    · exact ranged_ok _
  · exact ranged_ok _

/-- The values of points are the points themselves or the amounts that are read of them. -/
theorem forall_of_foundPoints {P : Datum → Prop} (hamount : ∀ a : Amount, P a.toDatum)
    {kind : String} {found : Option (List String) × List Datum} (h : ∀ p ∈ points, P p)
    (hfound : foundPoints kind points = .ok found) : ∀ v ∈ found.2, P v := by
  unfold foundPoints plainPoints at hfound
  split at hfound
  · obtain rfl := Except.ok.inj hfound
    exact h
  split at hfound
  · split at hfound
    · obtain ⟨values, hvalues, hfound⟩ := Result.bind_eq_ok.mp hfound
      obtain rfl := Except.ok.inj hfound
      obtain ⟨amounts, -, rfl⟩ := exists_amounts hvalues
      exact List.forall_mem_map.mpr fun a _ => hamount a
    · obtain rfl := Except.ok.inj hfound
      exact h
  · obtain rfl := Except.ok.inj hfound
    exact h

/-- So are the points of a repaired series, unless they are slices. -/
theorem forall_of_seriePoints {P : Datum → Prop} (hamount : ∀ a : Amount, P a.toDatum)
    (hslice : ∀ s : Slice, P s.toDatum) {kind : String} {axis : Option (List String)}
    {inferred : List String} {found : List String × List Datum} (h : ∀ p ∈ points, P p)
    (hfound : seriePoints kind axis inferred points = .ok found) : ∀ p ∈ found.2, P p := by
  rw [seriePoints_eq] at hfound
  obtain ⟨plain, hplain, hfound⟩ := Result.bind_eq_ok.mp hfound
  split at hfound
  · obtain ⟨slices, hslices, rfl⟩ := Result.map_eq_ok.mp hfound
    obtain ⟨amounts, -, rfl⟩ := slicesOf_eq_ok hslices
    exact List.forall_mem_map.mpr fun s _ => hslice s
  · obtain rfl := Except.ok.inj hfound
    exact forall_of_foundPoints hamount h hplain

theorem ranged_slicesOf (h : ∀ p ∈ points, fits → p.inRange = true) (labels : List String) :
    Ranged fits (slicesOf labels points) :=
  ranged_mapM fun (p, _) hp => ((ranged_numberOrZero p).mono
    (h p (List.fst_mem_of_mem_zipIdx hp))).bind fun _ _ => ranged_ok _

theorem ranged_seriePoints (h : ∀ p ∈ points, fits → p.inRange = true) (kind : String)
    (axis : Option (List String)) (inferred : List String) :
    Ranged fits (seriePoints kind axis inferred points) := by
  rw [seriePoints_eq]
  refine (ranged_foundPoints h kind).bind fun found hfound => ?_
  split
  · have hvalues : ∀ v ∈ found.2, fits → v.inRange = true :=
      forall_of_foundPoints (fun a _ => inRange_toDatum a) h hfound
    exact (ranged_slicesOf hvalues _).map _
  · exact ranged_ok _

end

theorem inRange_of_mem_points {v : Datum} (h : v.inRange = true) :
    ∀ p ∈ (Record.get v.members "data").asList?.getD [], p.inRange = true := by
  have hdata := inRange_get (inRange_members h) "data"
  rw [get_object] at hdata
  cases hpoints : (Record.get v.members "data").asList? with
  | none => simp
  | some points => exact inRange_of_mem_asList? hdata hpoints

theorem ranged_repairedSerie {v : Datum} (h : fits → v.inRange = true) (chart : Record)
    (axis : Option (List String)) (inferred : List String) (position : Nat) :
    Ranged fits (repairedSerie chart axis inferred position v) := by
  rw [repairedSerie_eq]
  exact (ranged_seriePoints (fun p hp hfits => inRange_of_mem_points (h hfits) p hp) _ axis
    inferred).map _

/-- Series one after the other; the labels handed on do not matter. -/
theorem ranged_repairedSeries {series : List Datum} (h : ∀ v ∈ series, fits → v.inRange = true)
    (chart : Record) (axis : Option (List String)) (inferred : List String) (position : Nat) :
    Ranged fits (repairedSeries chart axis inferred position series) := by
  induction series generalizing inferred position with
  | nil => exact ranged_ok _
  | cons v rest ih =>
    refine (ranged_repairedSerie (h v List.mem_cons_self) chart axis inferred position).bind
      fun found _ => ?_
    refine (ih (fun v' hv' => h v' (List.mem_cons_of_mem v hv')) found.1 (position + 1)).bind
      fun _ _ => ranged_ok _

/-- What a repair keeps of every series holds of all that are repaired. -/
theorem forall_of_repairedSeries {P : Datum → Prop} {chart : Record} {axis : Option (List String)}
    (hserie : ∀ {inferred labels : List String} {position : Nat} {v w : Datum}, P v →
      repairedSerie chart axis inferred position v = .ok (labels, w) → P w)
    {inferred labels : List String} {position : Nat} {series repaired : List Datum}
    (h : ∀ v ∈ series, P v)
    (hrepaired : repairedSeries chart axis inferred position series = .ok (labels, repaired)) :
    ∀ v ∈ repaired, P v := by
  induction series generalizing inferred position repaired with
  | nil =>
    obtain ⟨-, rfl⟩ := Prod.mk.inj (Except.ok.inj hrepaired)
    simp
  | cons v rest ih =>
    obtain ⟨⟨carried, serie⟩, hfirst, hrepaired⟩ := Result.bind_eq_ok.mp hrepaired
    obtain ⟨⟨carried', series⟩, hseries, hrepaired⟩ := Result.bind_eq_ok.mp hrepaired
    obtain ⟨rfl, rfl⟩ := Prod.mk.inj (Except.ok.inj hrepaired)
    rw [List.forall_mem_cons] at h ⊢
    exact ⟨hserie h.1 hfirst, ih h.2 hseries⟩

/-! ## Charts -/

theorem inRange_serieOfDataset {d : Datum} (h : d.inRange = true) (kind : String) (i : Nat) :
    (serieOfDataset kind d i).inRange = true := by
  have hpoints : (list ((d.get "data").asList?.getD [])).inRange = true := by
    cases hlist : d.get "data" with
    | list items => exact hlist ▸ inRange_get h "data"
    | _ => rfl
  simpa [serieOfDataset] using hpoints

theorem inRange_chartOfDatasets {chart : Record} {datasets : List Datum}
    (h : (object chart).inRange = true) (hdatasets : ∀ d ∈ datasets, d.inRange = true)
    (labels : List Datum) : (object (chartOfDatasets chart labels datasets)).inRange = true := by
  have hseries (kind : String) :
      (list (datasets.zipIdx.map fun p => serieOfDataset kind p.1 p.2)).inRange = true :=
    inRange_list_map.mpr fun p hp =>
      inRange_serieOfDataset (hdatasets p.1 (List.fst_mem_of_mem_zipIdx hp)) kind p.2
  have htitle : ((Record.get chart "title").orElse
      (.object [("text", generatedTitle)])).inRange = true :=
    forall_orElse (P := (·.inRange = true)) (inRange_get h "title") rfl
  rw [chartOfDatasets, inRange_object]
  simp only [List.forall_mem_cons, htitle, hseries, true_and]
  exact ⟨by simp, rfl, by simp⟩

theorem inRange_withoutDatasets {chart : Record} (h : (object chart).inRange = true) :
    (object (withoutDatasets chart)).inRange = true := by
  unfold withoutDatasets
  extract_lets data
  have hdata : data.inRange = true := inRange_get h "data"
  split
  · rename_i datasets labels hlist _
    exact inRange_chartOfDatasets h (inRange_list.mp (hlist ▸ inRange_get hdata "datasets")) labels
  · exact h

theorem inRange_of_seriesOf? {chart : Record} {series : List Datum}
    (h : (object chart).inRange = true) (hseries : seriesOf? chart = some series) :
    ∀ v ∈ series, v.inRange = true := by
  have hget := inRange_get h "series"
  rw [get_object] at hget
  unfold seriesOf? at hseries
  split at hseries
  · rename_i items hitems
    obtain rfl := Option.some.inj hseries
    exact inRange_list.mp (hitems ▸ hget)
  · rename_i serie hserie
    obtain rfl := Option.some.inj hseries
    simpa only [List.mem_singleton, forall_eq] using hserie ▸ hget
  · cases hseries

theorem ranged_mended (settings : Settings) {chart : Record} {rows : Datum}
    (hchart : fits → (object chart).inRange = true)
    (hrows : Ranged fits (fallbackChart settings rows)) :
    Ranged fits (mended settings chart rows) := by
  cases hkpi : (Record.get chart "kpi").isObject with
  | true =>
    rw [mended_of_kpi hkpi]
    exact ranged_ok _
  | false =>
    cases hseries : seriesOf? (withoutDatasets chart) with
    | none =>
      rw [mended_of_none hkpi hseries]
      exact hrows
    | some series =>
      rw [mended_of_series hkpi hseries, withRepairedSeries_eq]
      refine Ranged.bind (Ranged.map (ranged_repairedSeries (fun v hv hfits => ?_) _ _ _ _) _)
        fun result _ => ?_
      · exact inRange_of_seriesOf? (inRange_withoutDatasets (hchart hfits)) hseries v hv
      · split
        · exact ranged_ok _
        · exact hrows

/-- A repair has a result if the chart of the rows, on which it falls back, has one. -/
theorem ranged_repaired {settings : Settings} {raw rows : Datum}
    (hcopy : Copyable settings.limits raw) (hraw : fits → raw.inRange = true)
    (hrows : Ranged fits (fallbackChart settings rows)) :
    Ranged fits (repaired settings raw rows) := by
  cases raw with
  | object chart =>
    rw [repaired_of_le (copyable_object.mp hcopy)]
    exact ranged_mended settings hraw hrows
  | _ => exact hrows

/-! ## Repaired charts are in range -/

theorem inRange_of_repairedSerie {chart : Record} {axis : Option (List String)}
    {inferred labels : List String} {position : Nat} {v w : Datum} (h : v.inRange = true)
    (hw : repairedSerie chart axis inferred position v = .ok (labels, w)) : w.inRange = true := by
  rw [repairedSerie_eq] at hw
  obtain ⟨found, hfound, hw⟩ := Result.map_eq_ok.mp hw
  obtain ⟨rfl, rfl⟩ := Prod.mk.inj hw
  have hpoints : ∀ p ∈ found.2, p.inRange = true :=
    forall_of_seriePoints inRange_toDatum Slice.inRange_toDatum (inRange_of_mem_points h) hfound
  refine inRange_set (inRange_set (inRange_set (inRange_members h) ?_ _) ?_ _) ?_ _
  · rfl
  · rfl
  · exact inRange_list.mpr hpoints

theorem inRange_withAxisLabels {chart : Record} (h : (object chart).inRange = true)
    (labels : List String) : (object (withAxisLabels labels chart)).inRange = true := by
  unfold withAxisLabels
  extract_lets axis
  split
  · exact h
  · have haxis : axis.inRange = true := inRange_get h "xAxis"
    exact inRange_set h (inRange_set (inRange_members haxis) (inRange_texts labels) "data") "xAxis"

/-- A chart that is repaired without rows to fall back on stays in range. -/
theorem inRange_of_repaired {settings : Settings} {raw : Datum} {chart : Record}
    (h : raw.inRange = true) (hchart : repaired settings raw .null = .ok (some chart)) :
    (object chart).inRange = true := by
  obtain ⟨given, rfl, -, ⟨-, rfl⟩ | ⟨-, -, series, hseries, hmade⟩⟩ := repaired_eq_some hchart
  · exact h
  · rw [withRepairedSeries_eq] at hmade
    obtain ⟨found, hfound, rfl⟩ := Result.map_eq_ok.mp hmade
    have hgiven := inRange_withoutDatasets h
    have hrepaired : ∀ v ∈ found.2, v.inRange = true :=
      forall_of_repairedSeries inRange_of_repairedSerie (inRange_of_seriesOf? hgiven hseries) hfound
    exact inRange_withAxisLabels (inRange_set hgiven (inRange_list.mpr hrepaired) _) _

/-! ## Repaired charts are hardly deeper -/

section

variable {n : Nat}

theorem levels_of_repairedSerie {chart : Record} {axis : Option (List String)}
    {inferred labels : List String} {position : Nat} {v w : Datum} (h : v.levels ≤ n + 3)
    (hw : repairedSerie chart axis inferred position v = .ok (labels, w)) : w.levels ≤ n + 3 := by
  rw [repairedSerie_eq] at hw
  obtain ⟨found, hfound, hw⟩ := Result.map_eq_ok.mp hw
  obtain ⟨rfl, rfl⟩ := Prod.mk.inj hw
  have hmembers : (object v.members).levels ≤ n + 3 := levels_members h
  have hpoints : ∀ p ∈ (Record.get v.members "data").asList?.getD [], p.levels ≤ n + 1 := by
    cases hlist : (Record.get v.members "data").asList? with
    | none => simp
    | some points => exact levels_of_mem_asList? (levels_get hmembers "data") hlist
  have hfoundPoints : ∀ p ∈ found.2, p.levels ≤ n + 1 :=
    forall_of_seriePoints (fun a => Nat.le_trans (Nat.le_of_eq a.levels_toDatum) (n + 1).zero_le)
      (fun s => Nat.le_trans s.levels_toDatum (Nat.le_add_left 1 n)) hpoints hfound
  refine levels_set (levels_set (levels_set hmembers (Nat.zero_le _) _) (Nat.zero_le _) _) ?_ _
  exact levels_list_le.mpr hfoundPoints

theorem levels_chartOfDatasets {chart : Record} {labels datasets : List Datum}
    (h : (object chart).levels ≤ n + 5) (hdatasets : ∀ d ∈ datasets, d.levels ≤ n + 2) :
    (object (chartOfDatasets chart labels datasets)).levels ≤ n + 5 := by
  have hserie (kind : String) (d : Datum) (hd : d.levels ≤ n + 2) (i : Nat) :
      (serieOfDataset kind d i).levels ≤ n + 3 := by
    have hpoints : itemLevels ((d.get "data").asList?.getD []) ≤ n := by
      cases hlist : (d.get "data").asList? with
      | none => exact Nat.zero_le n
      | some items => exact itemLevels_le.mpr (levels_of_mem_asList? (levels_get hd "data") hlist)
    simp only [serieOfDataset, levels, memberLevels]
    omega
  have hseries (kind : String) :
      itemLevels (datasets.zipIdx.map fun p => serieOfDataset kind p.1 p.2) ≤ n + 3 :=
    itemLevels_le.mpr (List.forall_mem_map.mpr fun p hp =>
      hserie kind p.1 (hdatasets p.1 (List.fst_mem_of_mem_zipIdx hp)) p.2)
  have htitle : ((Record.get chart "title").orElse
      (.object [("text", generatedTitle)])).levels ≤ n + 4 :=
    forall_orElse (P := (·.levels ≤ n + 4)) (levels_get h "title") (Nat.le_add_left 1 (n + 3))
  have hlabels := levels_texts (labels.map Datum.label)
  have hkind := hseries (Text.lower ((Record.get chart "type").orElse (.text "bar")).label)
  simp only [chartOfDatasets, levels, memberLevels]
  omega

theorem levels_withoutDatasets {chart : Record} (h : (object chart).levels ≤ n + 5) :
    (object (withoutDatasets chart)).levels ≤ n + 5 := by
  unfold withoutDatasets
  extract_lets data
  have hdata : data.levels ≤ n + 4 := levels_get h "data"
  split
  · rename_i datasets labels hlist _
    have hdatasets : (data.get "datasets").levels ≤ n + 3 := levels_get hdata "datasets"
    exact levels_chartOfDatasets h (levels_list_le.mp (hlist ▸ hdatasets))
  · exact h

theorem levels_of_seriesOf? {chart : Record} {series : List Datum}
    (h : (object chart).levels ≤ n + 2) (hseries : seriesOf? chart = some series) :
    ∀ v ∈ series, v.levels ≤ n + 1 := by
  have hget := levels_get h "series"
  rw [get_object] at hget
  unfold seriesOf? at hseries
  split at hseries
  · rename_i items hitems
    obtain rfl := Option.some.inj hseries
    rw [hitems, levels_list_le] at hget
    exact fun v hv => Nat.le_succ_of_le (hget v hv)
  · rename_i serie hserie
    obtain rfl := Option.some.inj hseries
    exact List.forall_mem_singleton.mpr (hserie ▸ hget)
  · cases hseries

/-- A repair takes a chart one level deeper at most, namely when it puts a single series in a
list. -/
theorem levels_of_repaired {settings : Settings} {raw : Datum} {chart : Record}
    (h : raw.levels ≤ n + 5) (hchart : repaired settings raw .null = .ok (some chart)) :
    (object chart).levels ≤ n + 6 := by
  obtain ⟨given, rfl, -, ⟨-, rfl⟩ | ⟨-, -, series, hseries, hmade⟩⟩ := repaired_eq_some hchart
  · exact Nat.le_succ_of_le h
  · rw [withRepairedSeries_eq] at hmade
    obtain ⟨found, hfound, rfl⟩ := Result.map_eq_ok.mp hmade
    have hgiven := levels_withoutDatasets h
    have hrepaired : ∀ v ∈ found.2, v.levels ≤ n + 4 :=
      forall_of_repairedSeries (levels_of_repairedSerie (n := n + 1))
        (levels_of_seriesOf? hgiven hseries) hfound
    have hlist : (list found.2).levels ≤ n + 5 := levels_list_le.mpr hrepaired
    exact levels_withAxisLabels (n := n + 3)
      (levels_set (Nat.le_succ_of_le hgiven) hlist "series") found.1

end

/-! ## Charts of rows are repaired -/

/-- The chart of columns is a bar chart of plain numbers; it has a bar unless none are wanted. -/
theorem exists_barChart_of_columns {settings : Settings} {title : Datum} {x : String}
    {rows : List Datum} {made : Record} (hrows : rows ≠ [])
    (h : chartOfColumns settings title x rows = .ok made) :
    ∃ heading categories y values, made = barChart heading categories x y values ∧
      heading.levels ≤ title.levels ∧ (∀ v ∈ values, v.levels = 0) ∧
        (1 ≤ settings.fallbackTop → values ≠ []) := by
  obtain ⟨columns, -, h⟩ := Result.bind_eq_ok.mp h
  cases columns with
  | nil =>
    obtain ⟨names, hnames, h⟩ := Result.bind_eq_ok.mp h
    obtain rfl := Result.pure_eq_ok.mp h
    refine ⟨_, _, _, _, rfl, Nat.zero_le _, List.forall_mem_map.mpr fun _ _ => rfl,
      fun htop => ?_⟩
    have hne : names ≠ [] := by
      rw [← List.length_pos_iff, Result.length_of_mapM_eq_ok hnames, List.length_pos_iff]
      exact hrows
    have hsorted : (countsOf names).mergeSort (fun a b => b.2 ≤ a.2) ≠ [] := by
      rw [← List.length_pos_iff, List.length_mergeSort, List.length_pos_iff]
      exact countsOf_ne_nil hne
    exact List.map_eq_nil_iff.not.mpr (Text.capped_ne_nil htop hsorted)
  | cons y _ =>
    obtain ⟨categories, -, h⟩ := Result.bind_eq_ok.mp h
    obtain ⟨values, hvalues, h⟩ := Result.bind_eq_ok.mp h
    obtain rfl := Result.pure_eq_ok.mp h
    refine ⟨_, _, _, values, rfl, Nat.le_refl _, fun v hv => ?_, fun htop => ?_⟩
    · obtain ⟨row, -, hrow⟩ := Result.of_mem_of_mapM_eq_ok hvalues hv
      obtain ⟨read, -, hrow⟩ := Result.bind_eq_ok.mp hrow
      obtain ⟨number, -, hrow⟩ := Result.bind_eq_ok.mp hrow
      obtain rfl := Result.pure_eq_ok.mp hrow
      rfl
    · rw [← List.length_pos_iff, Result.length_of_mapM_eq_ok hvalues, List.length_pos_iff]
      exact Text.capped_ne_nil htop hrows

/-- So is the chart of rows. -/
theorem exists_barChart {settings : Settings} {title rows : Datum} {chart : Record}
    (h : chartOfRows settings title rows = .ok (some chart)) :
    ∃ heading categories x y values, chart = barChart heading categories x y values ∧
      heading.levels ≤ title.levels ∧ (∀ v ∈ values, v.levels = 0) ∧
        (1 ≤ settings.fallbackTop → values ≠ []) := by
  obtain ⟨read, -, h⟩ := Result.bind_eq_ok.mp h
  split at h
  · rename_i x _ _ _
    obtain ⟨made, hmade, h⟩ := Result.bind_eq_ok.mp h
    obtain rfl := Option.some.inj (Result.pure_eq_ok.mp h)
    obtain ⟨heading, categories, y, values, hbars⟩ :=
      exists_barChart_of_columns (List.cons_ne_nil _ _) hmade
    exact ⟨heading, categories, x, y, values, hbars⟩
  · cases Result.pure_eq_ok.mp h

theorem levels_barChart {title : Datum} {values : List Datum} (htitle : title.levels = 0)
    (h : ∀ v ∈ values, v.levels = 0) (categories : List String) (x y : String) :
    (object (barChart title categories x y values)).levels ≤ 4 := by
  have hvalues : itemLevels values ≤ 0 := itemLevels_le.mpr fun v hv => Nat.le_of_eq (h v hv)
  have hcategories := levels_texts categories
  simp only [barChart, levels, memberLevels, itemLevels, htitle]
  omega

/-- The values of such a chart are taken as they are, however large. -/
theorem ranged_mended_barChart {values : List Datum} (h : ∀ v ∈ values, v.levels = 0)
    (settings : Settings) {rows : Datum} (hrows : Ranged fits (fallbackChart settings rows))
    (title : Datum) (categories : List String) (x y : String) :
    Ranged fits (mended settings (barChart title categories x y values) rows) := by
  have hplain : carriesLabels values = false := by
    cases values with
    | nil => rfl
    | cons v rest =>
      have hv := h v List.mem_cons_self
      cases v with
      | object members => cases hv
      | _ => rfl
  have hpoints (axis : Option (List String)) : seriePoints "bar" axis [] values =
      .ok ([], values) := by
    rw [seriePoints_eq, foundPoints, if_neg (by decide), plainPoints_of_plain hplain]
    rfl
  have hkind (chart rest : Record) : serieKind chart (("type", .text "bar") :: rest) = "bar" := by
    have htruthy : (Datum.text "bar").truthy = true := by decide
    have hlower : Text.lower (Datum.text "bar").label = "bar" := by decide
    rw [serieKind, Record.get_cons, if_pos rfl]
    simp only [Datum.orElse, if_pos htruthy, hlower]
  have hkpi : (Record.get (barChart title categories x y values) "kpi").isObject = false := rfl
  have hseries : seriesOf? (withoutDatasets (barChart title categories x y values)) =
      some [.object [("type", .text "bar"), ("name", .text y), ("data", .list values)]] := rfl
  rw [mended_of_series hkpi hseries, withRepairedSeries_eq, repairedSeries, repairedSerie_eq]
  dsimp only [Datum.members, Datum.asRecord?, Option.getD_some]
  rw [hkind]
  have hdata : (Record.get [("type", .text "bar"), ("name", .text y), ("data", .list values)]
      "data").asList?.getD [] = values := rfl
  rw [hdata, hpoints]
  refine Ranged.bind (Ranged.map (ranged_ok _) _) fun result _ => ?_
  split
  · exact ranged_ok _
  · exact hrows

/-- A chart that is made of rows can be repaired whatever the rows are. -/
theorem ranged_repaired_chartOfRows {settings : Settings} {made : Record} {data rows : Datum}
    (h : chartOfRows settings generatedTitle data = .ok (some made))
    (hrows : Ranged fits (fallbackChart settings rows)) :
    Ranged fits (repaired settings (.object made) rows) := by
  obtain ⟨title, categories, x, y, values, rfl, htitle, hvalues, -⟩ := exists_barChart h
  have hlevels := levels_barChart (Nat.le_zero.mp htitle) hvalues categories x y
  have henough := settings.limits.eight_le_copying
  rw [repaired_of_le (by omega)]
  exact ranged_mended_barChart hvalues settings hrows title categories x y

end ChartBoard.Chart
