import ChartBoard.Proofs.Datum.Distinct
import ChartBoard.Proofs.Filtering.Session

/-!
# Offered values

The values that a draft offers to choose from are merged anew whenever further ones are offered.
Once values have been offered, offering them again changes nothing, whatever else is done that
leaves the draft its selection.

* `Panel.addOptions_of_saturated` says when offering values changes nothing,
  `Panel.saturated_addOptions` that this is so once they have been offered.
* `Panel.offer?_perform` is the step, `Panel.offer?_run` the run.
* `merging_keeps_firsts` puts this together with the laws of merging.
-/

namespace ChartBoard.Filtering

variable {options : List Datum}

/-- The operations that leave a draft its selection and offer nothing but `options` for it. -/
def Operation.Reoffers (options : List Datum) : Operation → Prop
  | .select .. | .discard => False
  | .addOptions others => others = options
  | _ => True

namespace Panel

variable {p : Panel}

/-- The selection of the draft and the values that it offers. -/
def offer? (p : Panel) : Option (List Datum × List Datum) :=
  p.draft.map fun d => (d.selected, d.options)

/-- Offering `options` once more would not change what is offered. -/
def Saturated (options : List Datum) (p : Panel) : Prop :=
  ∀ selected offered, p.offer? = some (selected, offered) →
    mergeDistinct [options, offered, selected] = offered

theorem addOptions_of_saturated (h : p.Saturated options) : p.addOptions options = p := by
  cases hdraft : p.draft with
  | none => rw [addOptions, hdraft, Option.map_none, ← hdraft]
  | some d =>
    have hmerged : mergeDistinct [options, d.options, d.selected] = d.options :=
      h d.selected d.options (by rw [offer?, hdraft, Option.map_some])
    rw [addOptions, hdraft, Option.map_some, hmerged, ← hdraft]

theorem saturated_addOptions (options : List Datum) (p : Panel) :
    (p.addOptions options).Saturated options := by
  intro selected offered hoffer
  rw [offer?, addOptions, Option.map_map, Option.map_eq_some_iff] at hoffer
  obtain ⟨d, -, hd⟩ := hoffer
  obtain ⟨rfl, rfl⟩ := Prod.mk.inj hd
  exact mergeDistinct_mergeDistinct options d.options d.selected

theorem offer?_perform {op : Operation} (hop : op.Reoffers options) (h : p.Saturated options) :
    (op.perform p).offer? = p.offer? := by
  cases op with
  | select => exact hop.elim
  | discard => exact hop.elim
  | addOptions others =>
    obtain rfl : others = options := hop
    rw [Operation.perform, addOptions_of_saturated h]
  | apply =>
    cases hdraft : p.draft with
    | none => rw [Operation.perform, apply, hdraft]
    | some d =>
      rw [Operation.perform, apply, offer?, offer?, hdraft]
      rfl
  | _ => rfl

theorem offer?_run {ops : List Operation} (hops : ∀ op ∈ ops, op.Reoffers options)
    (h : p.Saturated options) : (p.run ops).offer? = p.offer? := by
  induction ops generalizing p with
  | nil => rfl
  | cons op rest ih =>
    have hstep : (op.perform p).offer? = p.offer? :=
      offer?_perform (hops op List.mem_cons_self) h
    have hsaturated : (op.perform p).Saturated options := by
      rw [Saturated, hstep]
      exact h
    exact (ih (fun o ho => hops o (List.mem_cons_of_mem op ho)) hsaturated).trans hstep

end Panel

/-- The distinct values of a list, or of several, are its first ones of each kind and text; merging
lists that were merged before gives what merging all at once gives; and values that have been
offered in a draft can be offered again without a change, also between operations that leave the
draft its selection. -/
theorem merging_keeps_firsts :
    (∀ values, FirstOfEach values (distinct values)) ∧
    (∀ lists : List (List Datum), FirstOfEach lists.flatten (mergeDistinct lists)) ∧
    (∀ a b, distinct (distinct a ++ b) = distinct (a ++ b) ∧
      distinct (a ++ distinct b) = distinct (a ++ b)) ∧
    (∀ lists : List (List Datum),
      lists.foldl (fun merged list => mergeDistinct [merged, list]) [] = mergeDistinct lists) ∧
    (∀ (p : Panel) (options : List Datum),
      (p.addOptions options).addOptions options = p.addOptions options) ∧
    (∀ (p : Panel) (options : List Datum) (ops : List Operation), (∀ op ∈ ops, op.Reoffers options) →
      ((p.addOptions options).run ops).offer? = (p.addOptions options).offer?) := by
  refine ⟨firstOfEach_distinct, fun lists => firstOfEach_distinct lists.flatten, fun a b => ?_,
    fun lists => ?_, fun p options => ?_, fun p options ops hops => ?_⟩
  · exact ⟨distinct_distinct_append a b, distinct_append_distinct a b⟩
  · exact foldl_mergeDistinct [] lists
  · exact Panel.addOptions_of_saturated (Panel.saturated_addOptions options p)
  · exact Panel.offer?_run hops (Panel.saturated_addOptions options p)

/-- Values of which some have one text, others one kind. -/
def mixedValues : List Datum := [.bool true, .text "1", .text "True", .bool true]

/-- A draft that offers some of them. -/
def mixedPanel : Panel :=
  { draft := some ⟨"w", "orders", "code", [.int 1], [.text "1", .int 1], true⟩ }

/-- Also after the draft was applied each value is offered once, where it was offered first. -/
theorem merging_keeps_firsts_mixed :
    (∀ op ∈ [Operation.apply, .addOptions mixedValues, .clearAll], op.Reoffers mixedValues) ∧
      ((mixedPanel.addOptions mixedValues).run
          [.apply, .addOptions mixedValues, .clearAll]).offer? =
        some ([.int 1], [.bool true, .text "1", .text "True", .int 1]) := by
  have hops : ∀ op ∈ [Operation.apply, .addOptions mixedValues, .clearAll],
      op.Reoffers mixedValues := by
    simp [Operation.Reoffers]
  exact ⟨hops, (merging_keeps_firsts.2.2.2.2.2 mixedPanel mixedValues _ hops).trans rfl⟩

end ChartBoard.Filtering
