import ChartBoard.Proofs.Filtering.Repeated

/-!
# What filters leave of a chart

Filters leave of a chart the labels that they spare, in order, and of every series the points under
these labels, however many points it has.  Of a pie they leave the slices whose name they spare.

* `KeptAxis` and `KeptPie` say what is left of a chart by category and of a pie.
* `Rearranged` is about the order of filters and of their values.
* `filteredBy_keeps` is the result.
* `not_filteredBy_keeps_rest` shows two things that change with the points: where no label is left,
  series that list no points are given an empty list, and a pie without a single slice with members
  is marked as emptied.
-/

namespace ChartBoard.Filtering

open Relationship (Field)
open Widget (Source)

/-! ## What is left -/

section

variable (keeps : Datum → Bool) (labels : List Datum)

/-- True when there are labels, and none of them is kept. -/
def NoneLeft : Prop := labels ≠ [] ∧ labels.filter keeps = []

instance : Decidable (NoneLeft keeps labels) := inferInstanceAs (Decidable (_ ∧ _))

/-- What is left of a series over labels: its points under the labels that are kept, if it lists
points. -/
structure KeptSerie (v v' : Datum) : Prop where
  points : ∀ points, v.get "data" = .list points → ∃ points', v'.get "data" = .list points' ∧
    (labels.filter keeps).zip points' = (labels.zip points).filter fun p => keeps p.1
  unlisted : (∀ points, v.get "data" ≠ .list points) →
    v' = if NoneLeft keeps labels then emptied v else v
  others : ∀ name, name ≠ "data" → Record.get? v'.members name = Record.get? v.members name

/-- What is left of a chart by category. -/
structure KeptAxis (chart result axis : Record) (series : List Datum) : Prop where
  onAxis : ∃ axis', Record.get? result "xAxis" = some (.object axis') ∧
    Record.get? axis' "data" = some (.list (labels.filter keeps)) ∧
    ∀ name, name ≠ "data" → Record.get? axis' name = Record.get? axis name
  inSeries : ∃ series', Record.get? result "series" = some (.list series') ∧
    List.Forall₂ (KeptSerie keeps labels) series series'
  mark : Record.get? result Figure.emptyMark =
    if NoneLeft keeps labels then some (.bool true) else none
  others : ∀ name, name ∉ ["xAxis", "series", Figure.emptyMark] →
    Record.get? result name = Record.get? chart name

/-- What is left of a pie, given whether any filter concerns it: slices that are no objects stay
only where none does. -/
structure KeptPie (concerned : Prop) (chart result first : Record) (rest slices : List Datum) :
    Prop where
  slices : ∃ first' slices', Record.get? result "series" = some (.list (.object first' :: rest)) ∧
    Record.get? first' "data" = some (.list slices') ∧
    slices'.filter Datum.isObject =
      (slices.filter Datum.isObject).filter (fun v => keeps (v.get "name")) ∧
    (concerned → ∀ v ∈ slices', v.isObject = true) ∧ (¬ concerned → slices' = slices) ∧
    (∀ name, name ≠ "data" → Record.get? first' name = Record.get? first name) ∧
    Record.get? result Figure.emptyMark =
      if slices ≠ [] ∧ slices' = [] then some (.bool true) else none
  others : ∀ name, name ∉ ["series", Figure.emptyMark] →
    Record.get? result name = Record.get? chart name

end

variable {keeps : Datum → Bool} {chart axis first : Record} {labels series rest slices : List Datum}
  {filters filters' : List ActiveFilter} {allowed allowed' : List String} {s : Source}
  {field : Field}

/-! ## Series -/

theorem zip_pick (keeps : Datum → Bool) (labels points : List Datum) :
    (labels.filter keeps).zip (pick (labels.map keeps) points) =
      (labels.zip points).filter fun p => keeps p.1 := by
  induction labels generalizing points with
  | nil => rfl
  | cons v labels ih =>
    cases points with
    | nil =>
      have hnone : pick ((v :: labels).map keeps) ([] : List Datum) = [] := by
        rw [List.map_cons]
        cases keeps v <;> rfl
      rw [hnone, List.zip_nil_right, List.zip_nil_right, List.filter_nil]
    | cons point points =>
      rw [List.filter_cons, List.map_cons, List.zip_cons_cons, List.filter_cons]
      cases keeps v with
      | true => exact congrArg ((v, point) :: ·) (ih points)
      | false => exact ih points

theorem keptSerie_self (hall : ∀ v ∈ labels, keeps v = true) (v : Datum) :
    KeptSerie keeps labels v v := by
  have hlabels : labels.filter keeps = labels := List.filter_eq_self.mpr hall
  refine ⟨fun points hpoints => ⟨points, hpoints, ?_⟩, fun _ => ?_, fun _ _ => rfl⟩
  · rw [hlabels, List.filter_eq_self.mpr]
    exact fun p hp => hall p.1 (List.of_mem_zip hp).1
  · rw [if_neg]
    rintro ⟨hne, hnil⟩
    exact hne (hlabels ▸ hnil)

theorem withPoints_of_unlisted {change : List Datum → List Datum} {v : Datum}
    (h : ∀ points, v.get "data" ≠ .list points) : withPoints change v = v := by
  unfold withPoints
  split
  · rename_i serie
    split
    · rename_i points hpoints
      exact absurd hpoints (h points)
    · rfl
  · rfl

theorem keptSerie_withPoints (hsome : labels.filter keeps ≠ []) (v : Datum) :
    KeptSerie keeps labels v (withPoints (pick (labels.map keeps)) v) := by
  have hnot : ¬ NoneLeft keeps labels := fun h => hsome h.2
  by_cases hlisted : ∃ points, v.get "data" = .list points
  · obtain ⟨points, hpoints⟩ := hlisted
    cases v with
    | object serie =>
      have hset : withPoints (pick (labels.map keeps)) (.object serie) =
          .object (Record.set serie "data" (.list (pick (labels.map keeps) points))) := by
        rw [Datum.get_object] at hpoints
        simp only [withPoints, hpoints]
      rw [hset]
      refine ⟨fun points' hpoints' => ?_, fun hunlisted => absurd hpoints (hunlisted points),
        fun name hname => (Record.get?_set ..).trans (if_neg hname.symm)⟩
      obtain rfl := Datum.list.inj (hpoints.symm.trans hpoints')
      exact ⟨_, by rw [Datum.get_object, Record.get_set, if_pos rfl],
        zip_pick keeps labels points⟩
    | _ => cases hpoints
  · rw [not_exists] at hlisted
    rw [withPoints_of_unlisted hlisted]
    exact ⟨fun points hpoints => absurd hpoints (hlisted points), fun _ => (if_neg hnot).symm,
      fun _ _ => rfl⟩

theorem keptSerie_emptied (hnone : NoneLeft keeps labels) (v : Datum) :
    KeptSerie keeps labels v (emptied v) := by
  refine ⟨fun points hpoints => ?_, fun _ => (if_pos hnone).symm, fun name hname => ?_⟩
  · cases v with
    | object serie =>
      refine ⟨[], by simp [emptied], ?_⟩
      have hdropped : ∀ v ∈ labels, ¬ keeps v = true := List.filter_eq_nil_iff.mp hnone.2
      rw [hnone.2, List.zip_nil_left, Eq.comm, List.filter_eq_nil_iff]
      exact fun p hp => hdropped p.1 (List.of_mem_zip hp).1
    | _ => cases hpoints
  · cases v with
    | object serie => exact (Record.get?_set ..).trans (if_neg hname.symm)
    | _ => rfl

/-! ## Charts by category -/

/-- Labels and series are changed in a chart that is marked, if at all, where no label is left. -/
theorem keptAxis_set {base : Record} {change : Datum → Datum}
    (hmark : Record.get? base Figure.emptyMark =
      if NoneLeft keeps labels then some (.bool true) else none)
    (hbase : ∀ name, name ≠ Figure.emptyMark → Record.get? base name = Record.get? chart name)
    (hchange : ∀ v, KeptSerie keeps labels v (change v)) :
    KeptAxis keeps labels chart
      (Record.set (Record.set base "xAxis"
        (.object (Record.set axis "data" (.list (labels.filter keeps))))) "series"
          (.list (series.map change))) axis series := by
  have hget (name : String) (v w : Datum) :
      Record.get? (Record.set (Record.set base "xAxis" v) "series" w) name =
        if "series" = name then some w else if "xAxis" = name then some v
          else Record.get? base name := by
    rw [Record.get?_set, Record.get?_set]
  refine ⟨⟨_, hget "xAxis" _ _, ?_, fun name hname => ?_⟩, ⟨_, hget "series" _ _, ?_⟩, ?_,
    fun name hname => ?_⟩
  · rw [Record.get?_set, if_pos rfl]
  · rw [Record.get?_set, if_neg hname.symm]
  · rw [List.forall₂_map_right_iff]
    exact List.forall₂_same.mpr fun v _ => hchange v
  · rw [hget, if_neg (by decide), if_neg (by decide), hmark]
  · simp only [List.mem_cons, List.not_mem_nil, or_false, not_or] at hname
    rw [hget, if_neg (Ne.symm hname.2.1), if_neg (Ne.symm hname.1), hbase name hname.2.2]

section Axis

variable (hxAxis : Record.get chart "xAxis" = .object axis)
  (hlabels : Record.get axis "data" = .list labels)
  (hseries : Record.get chart "series" = .list series)
  (hunmarked : Record.get? chart Figure.emptyMark = none)

include hxAxis hlabels hseries hunmarked

theorem keptAxis_self (hall : ∀ v ∈ labels, keeps v = true) :
    KeptAxis keeps labels chart chart axis series := by
  have hkept : labels.filter keeps = labels := List.filter_eq_self.mpr hall
  have hsome : ¬ NoneLeft keeps labels := fun ⟨hne, hnil⟩ => hne (hkept ▸ hnil)
  refine ⟨⟨axis, ?_, ?_, fun _ _ => rfl⟩, ⟨series, ?_, ?_⟩, ?_, fun _ _ => rfl⟩
  · exact Record.get?_of_get chart "xAxis" _ hxAxis (by simp)
  · rw [hkept]
    exact Record.get?_of_get axis "data" _ hlabels (by simp)
  · exact Record.get?_of_get chart "series" _ hseries (by simp)
  · exact List.forall₂_same.mpr fun v _ => keptSerie_self hall v
  · rw [hunmarked, if_neg hsome]

theorem keptAxis_filteredAxis :
    KeptAxis (isAllowed allowed) labels chart ((filteredAxis? allowed chart).getD chart) axis
      series := by
  have hkeep : (fun v => allowed.contains (normalLabel v)) = isAllowed allowed := rfl
  simp only [filteredAxis?, hxAxis, hseries, hlabels, hkeep]
  split
  · rename_i hall
    exact keptAxis_self hxAxis hlabels hseries hunmarked (by simpa using hall)
  split
  · rename_i hany
    have hsome : labels.filter (isAllowed allowed) ≠ [] := by
      rw [ne_eq, List.filter_eq_nil_iff]
      simpa using hany
    have hnot : ¬ NoneLeft (isAllowed allowed) labels := fun h => hsome h.2
    rw [Option.getD_some, pick_eq_filter]
    exact keptAxis_set (by rw [hunmarked, if_neg hnot]) (fun _ _ => rfl)
      (keptSerie_withPoints hsome)
  · rename_i hall hany
    have hnone : NoneLeft (isAllowed allowed) labels := by
      constructor
      · rintro rfl
        exact hall rfl
      · rw [List.filter_eq_nil_iff]
        simpa using hany
    have hmark (name : String) : Record.get? (marked chart) name =
        if Figure.emptyMark = name then some (.bool true) else Record.get? chart name :=
      Record.get?_set ..
    rw [Option.getD_some, ← hnone.2]
    exact keptAxis_set (by rw [hmark, if_pos rfl, if_pos hnone])
      (fun name hname => by rw [hmark, if_neg hname.symm]) (keptSerie_emptied hnone)

end Axis

/-! ## Pies -/

section Pie

variable (hseries : Record.get chart "series" = .list (.object first :: rest))
  (hslices : Record.get first "data" = .list slices)
  (hunmarked : Record.get? chart Figure.emptyMark = none)

include hseries hslices hunmarked

theorem keptPie_self {concerned : Prop} (hconcerned : ¬ concerned) (hall : ∀ v, keeps v = true) :
    KeptPie keeps concerned chart chart first rest slices := by
  refine ⟨⟨first, slices, ?_, ?_, ?_, fun h => absurd h hconcerned, fun _ => rfl, fun _ _ => rfl,
    ?_⟩, fun _ _ => rfl⟩
  · exact Record.get?_of_get chart "series" _ hseries (by simp)
  · exact Record.get?_of_get first "data" _ hslices (by simp)
  · exact (List.filter_eq_self.mpr fun v _ => hall _).symm
  · rw [hunmarked, if_neg]
    exact fun h => h.1 h.2

/-- The slices that filters leave of a pie they concern. -/
theorem keptPie_filteredPie {concerned : Prop} (hconcerned : concerned) :
    KeptPie (isAllowed allowed) concerned chart ((filteredPie? allowed chart).getD chart) first rest
      slices := by
  have hobjects := filter_isObject_isAllowedSlice allowed slices
  have hisObject : ∀ v ∈ slices.filter (isAllowedSlice allowed), v.isObject = true := by
    intro v hv
    have hallowed := (List.mem_filter.mp hv).2
    rw [isAllowedSlice, Bool.and_eq_true] at hallowed
    exact hallowed.1
  simp only [filteredPie?, hseries, hslices]
  split
  · rename_i hlength
    have hkept : slices.filter (isAllowedSlice allowed) = slices :=
      List.filter_eq_self.mpr (List.length_filter_eq_length_iff.mp hlength)
    rw [hkept] at hobjects hisObject
    refine ⟨⟨first, slices, ?_, ?_, hobjects, fun _ => hisObject, fun h => absurd hconcerned h,
      fun _ _ => rfl, ?_⟩, fun _ _ => rfl⟩
    · exact Record.get?_of_get chart "series" _ hseries (by simp)
    · exact Record.get?_of_get first "data" _ hslices (by simp)
    · rw [Option.getD_none, hunmarked, if_neg]
      exact fun h => h.1 h.2
  · rename_i hlength
    have hne : slices ≠ [] := by
      rintro rfl
      exact hlength rfl
    refine ⟨⟨_, _, (Record.get?_set ..).trans (if_pos rfl), (Record.get?_set ..).trans (if_pos rfl),
      hobjects, fun _ => hisObject, fun h => absurd hconcerned h,
      fun name hname => (Record.get?_set ..).trans (if_neg hname.symm), ?_⟩, fun name hname => ?_⟩
    · rw [Option.getD_some, Record.get?_set, if_neg (by decide)]
      cases hkept : slices.filter (isAllowedSlice allowed) with
      | nil => exact ((Record.get?_set ..).trans (if_pos rfl)).trans (if_pos ⟨hne, rfl⟩).symm
      | cons v kept => exact hunmarked.trans (if_neg fun h => List.cons_ne_nil v kept h.2).symm
    · simp only [List.mem_cons, List.not_mem_nil, or_false, not_or] at hname
      rw [Option.getD_some, Record.get?_set, if_neg (Ne.symm hname.1)]
      split
      · exact (Record.get?_set ..).trans (if_neg (Ne.symm hname.2))
      · rfl

end Pie

/-! ## The order of filters -/

/-- The same filters in another order, each with its values in another order. -/
def Rearranged (filters filters' : List ActiveFilter) : Prop :=
  ∃ middle, filters.Perm middle ∧
    List.Forall₂ (fun f g => f.table = g.table ∧ f.column = g.column ∧ f.values.Perm g.values)
      middle filters'

theorem filteredAxis?_congr (h : ∀ v, isAllowed allowed v = isAllowed allowed' v) :
    filteredAxis? allowed chart = filteredAxis? allowed' chart := by
  have hkeep : (fun v => allowed.contains (normalLabel v)) =
      fun v => allowed'.contains (normalLabel v) := funext h
  simp only [filteredAxis?, hkeep]

theorem filteredPie?_congr (h : ∀ v, isAllowed allowed v = isAllowed allowed' v) :
    filteredPie? allowed chart = filteredPie? allowed' chart := by
  have hkeep : isAllowedSlice allowed = isAllowedSlice allowed' :=
    funext fun v => congrArg (v.isObject && ·) (h (v.get "name"))
  simp only [filteredPie?, hkeep]

theorem mem_withValues {f : ActiveFilter} :
    f ∈ withValues filters ↔ f ∈ filters ∧ f.values ≠ [] := by
  simp [withValues]

/-- What only depends on the columns and on which values there are holds of some filter in either
order. -/
theorem exists_mem_of_rearranged {P : ActiveFilter → Prop} (h : Rearranged filters filters')
    (hP : ∀ f g : ActiveFilter, f.column = g.column → f.values.Perm g.values → (P f ↔ P g)) :
    (∃ f ∈ withValues filters, P f) ↔ ∃ f ∈ withValues filters', P f := by
  obtain ⟨middle, hperm, hall⟩ := h
  have hmiddle : (∃ f ∈ withValues filters, P f) ↔ ∃ f ∈ middle, f.values ≠ [] ∧ P f := by
    simp only [mem_withValues, hperm.mem_iff, and_assoc]
  refine hmiddle.trans ?_
  simp only [mem_withValues, and_assoc]
  clear hmiddle hperm
  induction hall with
  | nil => simp
  | @cons f g _ _ hfg _ ih =>
    obtain ⟨-, hcolumn, hvalues⟩ := hfg
    have hempty : f.values = [] ↔ g.values = [] := by
      rw [← List.length_eq_zero_iff, hvalues.length_eq, List.length_eq_zero_iff]
    simp only [List.exists_mem_cons_iff, ih, hP f g hcolumn hvalues, ne_eq, hempty]

theorem concerns_of_perm {column : String} {f g : ActiveFilter} (hcolumn : f.column = g.column)
    (hvalues : f.values.Perm g.values) : Concerns column labels f ↔ Concerns column labels g := by
  simp only [Concerns, hcolumn, hvalues.mem_iff]

/-- The order of filters and of their values does not matter. -/
theorem filtered_of_rearranged (h : Rearranged filters filters') (s : Source) (chart : Record) :
    filtered filters s chart = filtered filters' s chart := by
  cases hfield : axisField? s with
  | none => simp only [filtered, filtered?, allowedLabels?, hfield]
  | some field =>
    have hsome := exists_mem_of_rearranged h (P := fun f =>
      Concerns field.column (labelsOn (.object chart) s.kind) f) fun _ _ => concerns_of_perm
    have hspares (v : Datum) :
        Spares (withValues filters) field.column (labelsOn (.object chart) s.kind) v ↔
          Spares (withValues filters') field.column (labelsOn (.object chart) s.kind) v := by
      refine imp_congr hsome (exists_mem_of_rearranged h fun f g hcolumn hvalues => ?_)
      simp only [concerns_of_perm hcolumn hvalues, hvalues.mem_iff]
    cases hallowed : allowedLabels? filters s (.object chart) with
    | none =>
      have hnone := (spares_of_allowedLabels?_eq_none hfield hallowed).1
      cases hallowed' : allowedLabels? filters' s (.object chart) with
      | none => simp only [filtered, filtered?, hallowed, hallowed']
      | some allowed' =>
        exact absurd (hsome.mpr (spares_iff_of_allowedLabels? hfield hallowed').1) hnone
    | some allowed =>
      obtain ⟨hfound, hleft⟩ := spares_iff_of_allowedLabels? hfield hallowed
      cases hallowed' : allowedLabels? filters' s (.object chart) with
      | none =>
        exact absurd (hsome.mp hfound) (spares_of_allowedLabels?_eq_none hfield hallowed').1
      | some allowed' =>
        have hleft' := (spares_iff_of_allowedLabels? hfield hallowed').2
        have hsame (v : Datum) : isAllowed allowed v = isAllowed allowed' v := by
          rw [Bool.eq_iff_iff, isAllowed, isAllowed, List.contains_iff_mem, List.contains_iff_mem,
            hleft, hleft', hspares]
        simp only [filtered, filtered?, hallowed, hallowed', filteredPie?_congr hsame,
          filteredAxis?_congr hsame]

/-! ## Filtered charts -/

section

variable (hvalues : withValues filters = filters) (hfield : axisField? s = some field)
  (hunmarked : Record.get? chart Figure.emptyMark = none)

include hvalues hfield hunmarked

theorem keptAxis_filtered (hkind : s.kind ≠ "pie")
    (hxAxis : Record.get chart "xAxis" = .object axis)
    (hlabels : Record.get axis "data" = .list labels)
    (hseries : Record.get chart "series" = .list series) :
    KeptAxis (fun v => Spares filters field.column labels v) labels chart (filtered filters s chart)
      axis series := by
  have hon := labelsOn_axis hkind hxAxis hlabels
  cases hallowed : allowedLabels? filters s (.object chart) with
  | none =>
    have hspares := (spares_of_allowedLabels?_eq_none hfield hallowed).2
    rw [hvalues, hon] at hspares
    rw [filtered, filtered?, hallowed]
    exact keptAxis_self hxAxis hlabels hseries hunmarked fun v _ => decide_eq_true (hspares v)
  | some allowed =>
    have hkeeps := isAllowed_eq_spares hfield hallowed
    rw [hvalues, hon] at hkeeps
    rw [filtered, filtered?, hallowed, ← hkeeps]
    simp only [beq_iff_eq, hkind, if_false]
    exact keptAxis_filteredAxis hxAxis hlabels hseries hunmarked

theorem keptPie_filtered (hkind : s.kind = "pie")
    (hseries : Record.get chart "series" = .list (.object first :: rest))
    (hslices : Record.get first "data" = .list slices) {names : List Datum}
    (hnames : (slices.filter Datum.isObject).map (fun v => v.get "name") = names) :
    KeptPie (fun v => Spares filters field.column names v)
      (∃ f ∈ filters, Concerns field.column names f) chart (filtered filters s chart) first rest
      slices := by
  have hon := labelsOn_pie hseries hslices
  rw [← hkind, hnames] at hon
  cases hallowed : allowedLabels? filters s (.object chart) with
  | none =>
    obtain ⟨hnone, hspares⟩ := spares_of_allowedLabels?_eq_none hfield hallowed
    rw [hvalues, hon] at hspares hnone
    rw [filtered, filtered?, hallowed]
    exact keptPie_self hseries hslices hunmarked hnone fun v => decide_eq_true (hspares v)
  | some allowed =>
    have hsome := (spares_iff_of_allowedLabels? hfield hallowed).1
    have hkeeps := isAllowed_eq_spares hfield hallowed
    rw [hvalues, hon] at hsome hkeeps
    rw [filtered, filtered?, hallowed, ← hkeeps]
    simp only [beq_iff_eq, hkind, if_true]
    exact keptPie_filteredPie hseries hslices hunmarked hsome

end

/-! ## Filters as they are given -/

theorem withValues_validFilters (entries : List Datum) :
    withValues (validFilters entries) = validFilters entries := by
  simp [validFilters, withValues, List.filter_filter]

/-- Filters leave of a chart by category the labels that they spare and of every series the points
under them, and of a pie the slices whose name they spare; all else stays, and what is left without
anything is marked.  The order of the filters and of their values does not matter. -/
theorem filteredBy_keeps {given : Datum} {entries : List Datum}
    (hentries : entriesOf given = .ok entries) (hfield : axisField? s = some field)
    (hunmarked : Record.get? chart Figure.emptyMark = none) :
    ∃ result, filteredBy given s chart = .ok result ∧
      (s.kind ≠ "pie" → ∀ axis labels series, Record.get chart "xAxis" = .object axis →
        Record.get axis "data" = .list labels → Record.get chart "series" = .list series →
        KeptAxis (fun v => Spares (validFilters entries) field.column labels v) labels chart result
          axis series) ∧
      (s.kind = "pie" → ∀ first rest slices,
        Record.get chart "series" = .list (.object first :: rest) →
        Record.get first "data" = .list slices →
        let names := (slices.filter Datum.isObject).map fun v => v.get "name"
        KeptPie (fun v => Spares (validFilters entries) field.column names v)
          (∃ f ∈ validFilters entries, Concerns field.column names f) chart result first rest
          slices) ∧
      ∀ given' entries', entriesOf given' = .ok entries' →
        Rearranged (validFilters entries) (validFilters entries') →
        filteredBy given' s chart = .ok result := by
  have hby {given : Datum} {entries : List Datum} (hentries : entriesOf given = .ok entries) :
      filteredBy given s chart = .ok (filtered (validFilters entries) s chart) := by
    rw [filteredBy, activeFor_of_entries hentries hfield]
    rfl
  have hvalues := withValues_validFilters entries
  refine ⟨filtered (validFilters entries) s chart, hby hentries, ?_, ?_, ?_⟩
  · intro hkind axis labels series hxAxis hlabels hseries
    exact keptAxis_filtered hvalues hfield hunmarked hkind hxAxis hlabels hseries
  · intro hkind first rest slices hseries hslices
    exact keptPie_filtered hvalues hfield hunmarked hkind hseries hslices rfl
  · intro given' entries' hentries' hrearranged
    rw [hby hentries', filtered_of_rearranged hrearranged]

/-- The cities of the three bars. -/
def cities : List Datum := [.null, .text "Rome", .text "Milan"]

/-- The bar without a city and the bar of Rome are left, each with its own number. -/
theorem filteredBy_keeps_overlapping :
    entriesOf (.list romeOrUnknown) = .ok romeOrUnknown ∧
      axisField? barsByCity = some ⟨"orders", "city"⟩ ∧
      Record.get? threeCities Figure.emptyMark = none ∧
      cities.filter (fun v => Spares (validFilters romeOrUnknown) "city" cities v) =
        [.null, .text "Rome"] ∧
      ∃ result, filteredBy (.list romeOrUnknown) barsByCity threeCities = .ok result ∧
        KeptAxis (fun v => Spares (validFilters romeOrUnknown) "city" cities v) cities threeCities
          result [("data", .list cities)] [.object [("data", .list [.int 3, .int 2])]] := by
  have hentries : entriesOf (.list romeOrUnknown) = .ok romeOrUnknown := rfl
  have hfield : axisField? barsByCity = some ⟨"orders", "city"⟩ := by decide
  have hunmarked : Record.get? threeCities Figure.emptyMark = none := rfl
  have hbars : barsByCity.kind ≠ "pie" := by decide
  obtain ⟨result, hresult, hkept, -, -⟩ := filteredBy_keeps hentries hfield hunmarked
  exact ⟨hentries, hfield, hunmarked, rfl, result, hresult, hkept hbars _ _ _ rfl rfl rfl⟩

/-- One bar, and a series whose points are to come. -/
def romeAndPlans : Record :=
  [("xAxis", .object [("data", .list [.text "Rome"])]),
    ("series", .list [.object [("data", .list [.int 3])], .object [("data", .text "pending")]])]

/-- The shares of cities. -/
def sharesByCity : Source := { barsByCity with chartType := "pie" }

/-- A pie that lists bare numbers. -/
def bareShares : Record := [("series", .list [.object [("data", .list [.int 1, .int 2])]])]

/-- A filter on the city of orders. -/
def onlyMilan : Datum :=
  .list [.object [("tableName", .text "orders"), ("column", .text "city"),
    ("values", .list [.text "Milan"])]]

/-- Where no label is left, a series that lists no points does not stay as it is; and a pie can be
marked as left without slices though no slice of it was an object. -/
theorem not_filteredBy_keeps_rest :
    (¬ ∀ (s : Source) (given : Datum) (chart result : Record) (series series' : List Datum),
      s.kind ≠ "pie" → filteredBy given s chart = .ok result →
      Record.get chart "series" = .list series → Record.get result "series" = .list series' →
      List.Forall₂ (fun v v' => (∀ points, v.get "data" ≠ .list points) → v' = v) series series') ∧
    ¬ ∀ (s : Source) (given : Datum) (chart result first : Record) (rest slices : List Datum),
      s.kind = "pie" → filteredBy given s chart = .ok result →
      Record.get chart "series" = .list (.object first :: rest) →
      Record.get first "data" = .list slices → Record.get? chart Figure.emptyMark = none →
      slices.filter Datum.isObject = [] → Record.get? result Figure.emptyMark = none := by
  constructor
  · intro h
    have hall := h barsByCity onlyMilan romeAndPlans _ _ _ (by decide) rfl rfl rfl
    have hplans := (List.forall₂_cons.mp (List.forall₂_cons.mp hall).2).1 nofun
    cases (Datum.object.inj hplans)
  · intro h
    have hmark := h sharesByCity onlyMilan bareShares _ _ _ _ (by decide) rfl rfl rfl rfl rfl
    cases hmark

end ChartBoard.Filtering
