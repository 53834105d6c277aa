import ChartBoard.Proofs.Filtering.Concerned
import ChartBoard.Proofs.Filtering.Narrowing

/-!
# Filters applied twice

A chart that filters have restricted is left as it is by the same filters.  Which of them concern a
chart is read off the labels it shows, so that fewer labels could mean fewer filters; but a filter
that shares a value with a label spares this label, and goes on to concern what is left.

* `labelsOn_filteredAxis` and `labelsOn_filteredPie` say which labels are left of a chart.
* `allowedLabels?_of_filtered?` says that these allow the same labels again.
* `filtered_filtered` and `filteredBy_twice` are the results.
-/

namespace ChartBoard.Filtering

open Relationship (Field)
open Widget (Source)

variable {chart chart' : Record} {filters : List ActiveFilter} {s : Source} {kind : String}
  {allowed : List String}

/-! ## Charts by category -/

/-- A chart by category whose labels are restricted has the allowed ones left. -/
theorem filteredAxis?_eq_some (h : filteredAxis? allowed chart = some chart') :
    ∃ axis labels series series', Record.get chart "xAxis" = .object axis ∧
      Record.get axis "data" = .list labels ∧ Record.get chart "series" = .list series ∧
      Record.get chart' "xAxis" =
        .object (Record.set axis "data" (.list (labels.filter (isAllowed allowed)))) ∧
      Record.get chart' "series" = .list series' := by
  have hkeep : (fun v => allowed.contains (normalLabel v)) = isAllowed allowed := rfl
  unfold filteredAxis? at h
  split at h
  · rename_i axis series hxAxis hseries
    split at h
    · rename_i labels hlabels
      rw [hkeep] at h
      dsimp only at h
      split at h
      · cases h
      split at h
      · obtain rfl := Option.some.inj h
        refine ⟨axis, labels, series, _, hxAxis, hlabels, hseries, ?_,
          Record.get_set .. ▸ if_pos rfl⟩
        rw [pick_eq_filter, Record.get_set, if_neg (by decide), Record.get_set, if_pos rfl]
      · rename_i hnone
        obtain rfl := Option.some.inj h
        refine ⟨axis, labels, series, _, hxAxis, hlabels, hseries, ?_,
          Record.get_set .. ▸ if_pos rfl⟩
        have hempty : labels.filter (isAllowed allowed) = [] := by
          simpa [List.filter_eq_nil_iff] using hnone
        rw [hempty, Record.get_set, if_neg (by decide), Record.get_set, if_pos rfl]
    · cases h
  · cases h

theorem labelsOn_axis (hkind : kind ≠ "pie") {axis : Record} {labels : List Datum}
    (hxAxis : Record.get chart "xAxis" = .object axis)
    (hlabels : Record.get axis "data" = .list labels) : labelsOn (.object chart) kind = labels := by
  simp [labelsOn, hkind, Figure.itemsIn, hxAxis, hlabels, Datum.asList?]

theorem labelsOn_filteredAxis (hkind : kind ≠ "pie")
    (h : filteredAxis? allowed chart = some chart') :
    labelsOn (.object chart') kind =
      (labelsOn (.object chart) kind).filter (isAllowed allowed) := by
  obtain ⟨axis, labels, series, series', hxAxis, hlabels, -, hxAxis', -⟩ := filteredAxis?_eq_some h
  have hlabels' := Record.get_set axis "data" (.list (labels.filter (isAllowed allowed))) "data"
  rw [if_pos rfl] at hlabels'
  rw [labelsOn_axis hkind hxAxis hlabels, labelsOn_axis hkind hxAxis' hlabels']

/-- Where all labels are allowed, none is dropped. -/
theorem filteredAxis?_filteredAxis? (h : filteredAxis? allowed chart = some chart') :
    filteredAxis? allowed chart' = none := by
  obtain ⟨axis, labels, series, series', -, -, -, hxAxis', hseries'⟩ := filteredAxis?_eq_some h
  have hall : ((labels.filter (isAllowed allowed)).map
      fun v => allowed.contains (normalLabel v)).all id = true := by
    simp [isAllowed]
  simp only [filteredAxis?, hxAxis', hseries', Record.get_set, if_true, if_pos hall]

/-! ## Pies -/

/-- A pie whose slices are restricted has the allowed ones left. -/
theorem filteredPie?_eq_some (h : filteredPie? allowed chart = some chart') :
    ∃ first rest slices, Record.get chart "series" = .list (.object first :: rest) ∧
      Record.get first "data" = .list slices ∧
      Record.get chart' "series" = .list (.object (Record.set first "data"
        (.list (slices.filter (isAllowedSlice allowed)))) :: rest) := by
  unfold filteredPie? at h
  split at h
  · rename_i first rest hseries
    split at h
    · rename_i slices hslices
      dsimp only at h
      split at h
      · cases h
      · obtain rfl := Option.some.inj h
        exact ⟨first, rest, slices, hseries, hslices, Record.get_set .. ▸ if_pos rfl⟩
    · cases h
  · cases h

theorem labelsOn_pie {first : Record} {rest slices : List Datum}
    (hseries : Record.get chart "series" = .list (.object first :: rest))
    (hslices : Record.get first "data" = .list slices) :
    labelsOn (.object chart) "pie" =
      (slices.filter Datum.isObject).map fun v => v.get "name" := by
  simp [labelsOn, Figure.itemsIn, hseries, hslices, Datum.asList?]

/-- Of the slices that are objects those with allowed names are left. -/
theorem filter_isObject_isAllowedSlice (allowed : List String) (slices : List Datum) :
    (slices.filter (isAllowedSlice allowed)).filter Datum.isObject =
      (slices.filter Datum.isObject).filter fun v => isAllowed allowed (v.get "name") := by
  rw [List.filter_filter, List.filter_filter]
  refine List.filter_congr fun v _ => ?_
  rw [isAllowedSlice, isAllowed]
  cases v.isObject <;> simp

theorem labelsOn_filteredPie (h : filteredPie? allowed chart = some chart') :
    labelsOn (.object chart') "pie" =
      (labelsOn (.object chart) "pie").filter (isAllowed allowed) := by
  obtain ⟨first, rest, slices, hseries, hslices, hseries'⟩ := filteredPie?_eq_some h
  have hslices' := Record.get_set first "data"
    (.list (slices.filter (isAllowedSlice allowed))) "data"
  rw [if_pos rfl] at hslices'
  rw [labelsOn_pie hseries hslices, labelsOn_pie hseries' hslices',
    filter_isObject_isAllowedSlice, List.filter_map]
  rfl

/-- Where all slices are allowed, none is dropped. -/
theorem filteredPie?_filteredPie? (h : filteredPie? allowed chart = some chart') :
    filteredPie? allowed chart' = none := by
  obtain ⟨first, rest, slices, -, -, hseries'⟩ := filteredPie?_eq_some h
  have hsame : ((slices.filter (isAllowedSlice allowed)).filter (isAllowedSlice allowed)).length =
      (slices.filter (isAllowedSlice allowed)).length := by
    rw [List.filter_filter]
    simp
  simp only [filteredPie?, hseries', Record.get_set, if_true, if_pos hsame]

/-! ## Both kinds -/

theorem labelsOn_of_filtered? (hallowed : allowedLabels? filters s (.object chart) = some allowed)
    (h : filtered? filters s chart = some chart') :
    labelsOn (.object chart') s.kind =
      (labelsOn (.object chart) s.kind).filter (isAllowed allowed) := by
  simp only [filtered?, hallowed] at h
  split at h
  · rename_i hpie
    rw [beq_iff_eq] at hpie
    rw [hpie]
    exact labelsOn_filteredPie h
  · rename_i hpie
    exact labelsOn_filteredAxis (fun hkind => hpie (beq_iff_eq.mpr hkind)) h

/-- The labels that are allowed are those which the filters spare. -/
theorem isAllowed_eq_spares {field : Field} (hfield : axisField? s = some field)
    (hallowed : allowedLabels? filters s (.object chart) = some allowed) :
    isAllowed allowed = fun v => decide
      (Spares (withValues filters) field.column (labelsOn (.object chart) s.kind) v) := by
  funext v
  rw [Bool.eq_iff_iff, decide_eq_true_iff, ← (spares_iff_of_allowedLabels? hfield hallowed).2 v,
    isAllowed, List.contains_iff_mem]

/-- What is left of a chart is allowed the same labels as the chart. -/
theorem allowedLabels?_of_filtered? {field : Field} (hfield : axisField? s = some field)
    (hallowed : allowedLabels? filters s (.object chart) = some allowed)
    (h : filtered? filters s chart = some chart') :
    allowedLabels? filters s (.object chart') = some allowed := by
  -- a filter that concerned the chart spares the labels it was found by, and they still concern it
  have hrelevant : relevant filters field.column (labelsOn (.object chart') s.kind) =
      relevant filters field.column (labelsOn (.object chart) s.kind) := by
    rw [labelsOn_of_filtered? hallowed h, isAllowed_eq_spares hfield hallowed, relevant_spared]
  rw [allowedLabels?_eq hfield] at hallowed ⊢
  rw [hrelevant]
  exact hallowed

theorem filtered?_of_filtered? (h : filtered? filters s chart = some chart') :
    filtered? filters s chart' = none := by
  cases hfield : axisField? s with
  | none =>
    rw [filtered?, allowedLabels?, hfield] at h
    cases h
  | some field =>
    cases hallowed : allowedLabels? filters s (.object chart) with
    | none =>
      rw [filtered?, hallowed] at h
      cases h
    | some allowed =>
      have hallowed' := allowedLabels?_of_filtered? hfield hallowed h
      simp only [filtered?, hallowed, hallowed'] at h ⊢
      split at h
      · rename_i hpie
        rw [if_pos hpie, filteredPie?_filteredPie? h]
      · rename_i hpie
        rw [if_neg hpie, filteredAxis?_filteredAxis? h]

/-- What filters leave of a chart is left by them again. -/
theorem filtered_filtered (filters : List ActiveFilter) (s : Source) (chart : Record) :
    filtered filters s (filtered filters s chart) = filtered filters s chart := by
  cases h : filtered? filters s chart with
  | none => rw [filtered, filtered, h, Option.getD_none, h, Option.getD_none]
  | some chart' =>
    rw [filtered, filtered, h, Option.getD_some, filtered?_of_filtered? h, Option.getD_none]

/-! ## Filters as they are given -/

theorem exists_entriesOf {given : Datum} (hgiven : given = .null ∨
    (∃ entries, given = .list entries) ∨ ∃ members, given = .object members) :
    ∃ entries, entriesOf given = .ok entries := by
  unfold entriesOf
  split
  · exact ⟨_, rfl⟩
  · rename_i hnull
    rcases hgiven with rfl | ⟨entries, rfl⟩ | ⟨members, rfl⟩
    · exact absurd rfl hnull
    · exact ⟨_, rfl⟩
    · exact ⟨_, rfl⟩

theorem activeFor_of_entries {given : Datum} {entries : List Datum} {field : Field}
    (hentries : entriesOf given = .ok entries) (hfield : axisField? s = some field) :
    activeFor given s (.object chart) = .ok (validFilters entries) := by
  simp [activeFor, isFilterable, hfield, Datum.isNull, hentries, Except.map]

/-- Filters given as a list or by key can always be applied to a chart, and a second time they
change nothing more. -/
theorem filteredBy_twice {filters : Datum} (hfilters : filters = .null ∨
      (∃ entries, filters = .list entries) ∨ ∃ members, filters = .object members)
    (s : Source) (chart : Record) :
    ∃ result, filteredBy filters s chart = .ok result ∧
      filteredBy filters s result = .ok result := by
  have hactive : ∃ active, ∀ chart : Record, activeFor filters s (.object chart) = .ok active := by
    cases hfield : axisField? s with
    | none => exact ⟨[], fun chart => by simp [activeFor, isFilterable, hfield]⟩
    | some field =>
      obtain ⟨entries, hentries⟩ := exists_entriesOf hfilters
      exact ⟨validFilters entries, fun chart => activeFor_of_entries hentries hfield⟩
  obtain ⟨active, hactive⟩ := hactive
  refine ⟨filtered active s chart, by rw [filteredBy, hactive]; rfl, ?_⟩
  rw [filteredBy, hactive]
  exact congrArg Except.ok (filtered_filtered active s chart)

/-- Bars over the cities of orders. -/
def barsByCity : Source where
  tableName := "orders"
  xAxis := some "city"
  yAxis := some (.one "sales")
  chartType := "bar"
  options := .none

/-- Three bars, the first of them without a city. -/
def threeCities : Record :=
  [("xAxis", .object [("data", .list [.null, .text "Rome", .text "Milan"])]),
    ("series", .list [.object [("data", .list [.int 3, .int 2])]])]

/-- A number that means no filter, and a filter on a column of another name whose first value is on
display. -/
def romeOrUnknown : List Datum :=
  [.int 5, .object [("tableName", .text "visits"), ("column", .text "town"),
    ("values", .list [.text "rome ", .null])]]

/-- The bar without a city is left by the second value of the filter, and still is when the filter
is applied again. -/
theorem filteredBy_twice_overlapping :
    ∃ result, filteredBy (.list romeOrUnknown) barsByCity threeCities = .ok result ∧
      filteredBy (.list romeOrUnknown) barsByCity result = .ok result ∧
      labelsOn (.object result) "bar" = [.null, .text "Rome"] := by
  obtain ⟨result, hfirst, hsecond⟩ :=
    filteredBy_twice (.inr (.inl ⟨romeOrUnknown, rfl⟩)) barsByCity threeCities
  have hlabels : (filteredBy (.list romeOrUnknown) barsByCity threeCities).map
      (fun chart => labelsOn (.object chart) "bar") = .ok [.null, .text "Rome"] := rfl
  rw [hfirst] at hlabels
  exact ⟨result, hfirst, hsecond, Except.ok.inj hlabels⟩

end ChartBoard.Filtering
