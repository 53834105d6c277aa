import ChartBoard.Filtering.Matching
import ChartBoard.Proofs.Datum.Distinct
import ChartBoard.Proofs.Datum.Selection

/-!
# Filters that concern a chart

A filter concerns a chart with a column on its X axis when it has a column of that name or shares a
value with the labels on display.  The filters that do leave the labels that are among the values
of one of them.

* `Concerns` and `Spares` say that of filters and labels.
* `spares_iff_of_allowedLabels?` says that the allowed labels are those which filters spare,
  `spares_of_allowedLabels?_eq_none` that without any they spare all labels.
* `concerns_spared_iff` says that the labels which are spared decide as well as all labels which
  filters concern a chart.
-/

namespace ChartBoard.Filtering

open Relationship (Field)
open Widget (Source)

variable {chart : Record} {filters : List ActiveFilter} {s : Source} {field : Field}
  {column kind : String} {labels : List Datum} {f : ActiveFilter}

/-! ## Labels on display -/

/-- The labels of a chart: the names of the slices of a pie, else what is listed on the X axis. -/
def labelsOn (chart : Datum) (kind : String) : List Datum :=
  match (if kind == "pie" then (Figure.itemsIn chart "series").head? else none) with
  | some (.object first) =>
    (((Record.get first "data").asList?.getD []).filter Datum.isObject).map fun v => v.get "name"
  | _ => Figure.itemsIn (chart.get "xAxis") "data"

theorem displayedCategories_eq (chart : Datum) (kind : String) :
    displayedCategories chart kind = distinct ((labelsOn chart kind).filter (!·.isNull)) := by
  unfold displayedCategories labelsOn
  generalize (if kind == "pie" then (Figure.itemsIn chart "series").head? else none) = first
  cases first with
  | none => rfl
  | some v => cases v <;> rfl

theorem mem_displayed {chart : Datum} {t : String} :
    t ∈ (displayedCategories chart kind).map normalLabel ↔
      ∃ v ∈ labelsOn chart kind, v.isNull = false ∧ normalLabel v = t := by
  rw [displayedCategories_eq, List.mem_map,
    exists_mem_distinct (P := fun v => normalLabel v = t) fun v w hkey hv =>
      Datum.normalLabel_eq_of_key_eq hkey ▸ hv]
  simp only [List.mem_filter, Bool.not_eq_true', and_assoc]

/-! ## Filters and labels -/

/-- A filter concerns labels of a column: it is on a column of that name, up to case and blanks
around it, or one of its values is the text of a label. -/
def Concerns (column : String) (labels : List Datum) (f : ActiveFilter) : Prop :=
  normalLabel (.text f.column) = normalLabel (.text column) ∨
    ∃ v ∈ f.values, ∃ label ∈ labels, label.isNull = false ∧ normalLabel v = normalLabel label

instance : Decidable (Concerns column labels f) := inferInstanceAs (Decidable (_ ∨ _))

/-- Filters spare a label of a column: it has the text of a value of some filter that concerns the
labels, if there is any such filter. -/
def Spares (filters : List ActiveFilter) (column : String) (labels : List Datum)
    (label : Datum) : Prop :=
  (∃ f ∈ filters, Concerns column labels f) →
    ∃ f ∈ filters, Concerns column labels f ∧ ∃ v ∈ f.values, normalLabel v = normalLabel label

instance : DecidablePred (Spares filters column labels) :=
  fun _ => inferInstanceAs (Decidable (_ → _))

theorem concerns_iff {chart : Datum} :
    concerns column ((displayedCategories chart kind).map normalLabel) f = true ↔
      Concerns column (labelsOn chart kind) f := by
  unfold concerns Concerns
  simp only [Bool.or_eq_true, beq_iff_eq, List.any_eq_true, List.contains_iff_mem, mem_displayed,
    eq_comm (a := normalLabel _) (b := normalLabel _)]

/-- The filters that concern a chart, in order. -/
def relevant (filters : List ActiveFilter) (column : String) (labels : List Datum) :
    List ActiveFilter :=
  (withValues filters).filter fun f => Concerns column labels f

theorem mem_relevant :
    f ∈ relevant filters column labels ↔ f ∈ withValues filters ∧ Concerns column labels f := by
  simp [relevant]

theorem allowedLabels?_eq (hfield : axisField? s = some field) :
    allowedLabels? filters s (.object chart) =
      let found := relevant filters field.column (labelsOn (.object chart) s.kind)
      if found.isEmpty then none
      else some (distinctTexts (found.flatMap fun f => f.values.map normalLabel)) := by
  have hfound : (withValues filters).filter
      (concerns field.column ((displayedCategories (.object chart) s.kind).map normalLabel)) =
        relevant filters field.column (labelsOn (.object chart) s.kind) := by
    refine List.filter_congr fun f _ => ?_
    rw [Bool.eq_iff_iff, concerns_iff, decide_eq_true_iff]
  simp only [allowedLabels?, hfield, Datum.isNull, hfound]
  rfl

/-- Where no filter concerns a chart, all labels are spared. -/
theorem spares_of_allowedLabels?_eq_none (hfield : axisField? s = some field)
    (h : allowedLabels? filters s (.object chart) = none) :
    (¬ ∃ f ∈ withValues filters, Concerns field.column (labelsOn (.object chart) s.kind) f) ∧
      ∀ v, Spares (withValues filters) field.column (labelsOn (.object chart) s.kind) v := by
  have hnone : ¬ ∃ f ∈ withValues filters,
      Concerns field.column (labelsOn (.object chart) s.kind) f := by
    rintro ⟨f, hf, hconcerns⟩
    rw [allowedLabels?_eq hfield, if_neg] at h
    · cases h
    · simpa using List.ne_nil_of_mem (mem_relevant.mpr ⟨hf, hconcerns⟩)
  exact ⟨hnone, fun v hsome => absurd hsome hnone⟩

/-- The labels that are allowed are those which the filters spare. -/
theorem spares_iff_of_allowedLabels? {allowed : List String} (hfield : axisField? s = some field)
    (h : allowedLabels? filters s (.object chart) = some allowed) :
    (∃ f ∈ withValues filters, Concerns field.column (labelsOn (.object chart) s.kind) f) ∧
      ∀ v, normalLabel v ∈ allowed ↔
        Spares (withValues filters) field.column (labelsOn (.object chart) s.kind) v := by
  rw [allowedLabels?_eq hfield] at h
  dsimp only at h
  split at h
  · cases h
  · rename_i hfound
    obtain rfl := Option.some.inj h
    have hsome : ∃ f ∈ withValues filters,
        Concerns field.column (labelsOn (.object chart) s.kind) f := by
      obtain ⟨f, hf⟩ := List.exists_mem_of_ne_nil _ (by simpa using hfound)
      exact ⟨f, mem_relevant.mp hf⟩
    refine ⟨hsome, fun v => ?_⟩
    simp only [mem_distinctTexts, List.mem_flatMap, List.mem_map, mem_relevant, and_assoc, Spares,
      hsome, forall_const]

/-! ## Spared labels -/

/-- Among the labels that filters spare, each filter that concerns all of them finds its own. -/
theorem concerns_spared_iff (hf : f ∈ filters) :
    Concerns column (labels.filter fun v => Spares filters column labels v) f ↔
      Concerns column labels f := by
  constructor
  · rintro (hcolumn | ⟨v, hv, label, hlabel, hshared⟩)
    · exact .inl hcolumn
    · exact .inr ⟨v, hv, label, (List.mem_filter.mp hlabel).1, hshared⟩
  · intro hconcerns
    rcases id hconcerns with hcolumn | ⟨v, hv, label, hlabel, hknown, hshared⟩
    · exact .inl hcolumn
    · have hspared : Spares filters column labels label := fun _ =>
        ⟨f, hf, hconcerns, v, hv, hshared⟩
      refine .inr ⟨v, hv, label, List.mem_filter.mpr ⟨hlabel, ?_⟩, hknown, hshared⟩
      exact decide_eq_true hspared

theorem relevant_spared (filters : List ActiveFilter) (column : String) (labels : List Datum) :
    relevant filters column
        (labels.filter fun v => Spares (withValues filters) column labels v) =
      relevant filters column labels := by
  refine List.filter_congr fun f hf => ?_
  rw [decide_eq_decide]
  exact concerns_spared_iff hf

end ChartBoard.Filtering
