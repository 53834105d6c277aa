import ChartBoard.Proofs.Datum.Distinct
import ChartBoard.Proofs.Filtering.Columns
import ChartBoard.Proofs.Filtering.Session
import Mathlib.Algebra.Ring.Parity
import Mathlib.Data.Set.Basic

/-!
# Toggling by parity

A text is selected after a run of clicks if it was applied before or was clicked an odd number of
times, not both, whatever is applied in between.

* `mem_texts_toggled` says what one click does to the texts of a selection, `base_perform` what an
  operation on the draft does to what the next click goes on from.
* `texts_applied_run` follows the applied values up to the first click.
* `toggling_iff` puts this together.  Parity fails in one way only: before the first click the draft
  for another column with the same key is applied, as in `not_toggling`.
-/

namespace ChartBoard.Filtering

/-! ## Operations on a draft -/

namespace Operation

/-- The operations that work on the draft for a column. -/
def WorksOn (table column : String) : Operation → Prop
  | select _ t c _ _ => t = table ∧ c = column
  | addOptions _ | apply => True
  | _ => False

/-- True of clicks. -/
def isSelect : Operation → Bool
  | select .. => true
  | _ => false

/-- True of applying the draft. -/
def isApply : Operation → Bool
  | apply => true
  | _ => false

/-- True of a click on a value with a text; a click on null clicks none. -/
def clicks (u : String) : Operation → Bool
  | select _ _ _ value _ => !value.isNull && value.label == u
  | _ => false

theorem clicks_of_not_isSelect {op : Operation} (h : op.isSelect = false) (u : String) :
    op.clicks u = false := by
  cases op with
  | select => cases h
  | _ => rfl

end Operation

/-! ## Texts of a selection -/

/-- The texts of a selection. -/
def texts (values : List Datum) : Set String := {u | ∃ v ∈ values, v.label = u}

theorem mem_texts {values : List Datum} {u : String} :
    u ∈ texts values ↔ ∃ v ∈ values, v.label = u := Iff.rfl

theorem mem_texts_toggled (selection : List Datum) (value : Datum) (u : String) :
    u ∈ texts (toggled selection value) ↔ Xor (u ∈ texts selection) (value.label = u) := by
  have hany : (selection.any fun v => v.label == value.label) = true ↔
      value.label ∈ texts selection := by
    simp [mem_texts]
  unfold toggled
  split
  · rename_i h
    have hthere := hany.mp h
    have hkept : u ∈ texts (selection.filter fun v => v.label != value.label) ↔
        u ∈ texts selection ∧ value.label ≠ u := by
      simp only [mem_texts, List.mem_filter, bne_iff_ne]
      constructor
      · rintro ⟨v, ⟨hv, hne⟩, rfl⟩
        exact ⟨⟨v, hv, rfl⟩, hne.symm⟩
      · rintro ⟨⟨v, hv, rfl⟩, hne⟩
        exact ⟨v, ⟨hv, hne.symm⟩, rfl⟩
    rw [hkept, xor_def]
    grind
  · rename_i h
    have hnew : value.label ∉ texts selection := fun hthere => h (hany.mpr hthere)
    have hadded : u ∈ texts (selection ++ [value]) ↔ u ∈ texts selection ∨ value.label = u := by
      simp [mem_texts, or_and_right, exists_or]
    rw [hadded, xor_def]
    grind

theorem texts_eq_of_sameSelection {left right : List Datum}
    (h : sameSelection left right = true) : texts left = texts right := by
  have hsub {left right : List Datum} (h : sameSelection left right = true) :
      texts left ⊆ texts right := by
    rintro u ⟨v, hv, rfl⟩
    obtain ⟨w, hw, hkey⟩ := List.mem_map.mp
      ((sameSelection_iff_perm.mp h).subset (List.mem_map_of_mem hv))
    exact ⟨w, hw, Datum.label_eq_of_key_eq hkey⟩
  exact Set.Subset.antisymm (hsub h) (hsub (sameSelection_symm h))

namespace Panel

variable {p : Panel} {table column : String}

/-! ## What a click goes on from -/

/-- The filter that the draft in the making would set. -/
def pending (p : Panel) : Option ActiveFilter := p.draft.map Draft.filter

/-- The selection that the next click on a column goes on from. -/
def base (p : Panel) (table column : String) : List Datum :=
  ((p.draftFor? table column).map (·.selected)).getD (p.store.applied table column)

/-- The draft for a column selects what is pending. -/
theorem selected_draftFor? (p : Panel) (table column : String) :
    (p.draftFor? table column).map (·.selected) =
      (p.pending.filter fun f => f.table == table && f.column == column).map (·.values) := by
  rw [pending, Option.filter_map, Option.map_map]
  rfl

theorem draftFor?_select (p : Panel) (widget table column : String) (value : Datum)
    (options : List Datum) :
    (p.select widget table column value options).draftFor? table column =
      some (p.drafted widget table column value options) := by
  simp [select, draftFor?, drafted]

theorem mem_texts_drafted (p : Panel) (widget table column : String) (value : Datum)
    (options : List Datum) (u : String) :
    u ∈ texts (p.drafted widget table column value options).selected ↔
      Xor (u ∈ texts (p.base table column))
        ((Operation.select widget table column value options).clicks u = true) := by
  cases hnull : value.isNull with
  | true => simp [drafted, hnull, base, Operation.clicks, xor_def]
  | false =>
    simpa [drafted, hnull, Operation.clicks, base] using
      mem_texts_toggled (p.base table column) value u

/-- Only a click changes what is pending. -/
theorem pending_perform {op : Operation} (hop : op.WorksOn table column)
    (hclick : op.isSelect = false) : (op.perform p).pending = p.pending := by
  cases op with
  | select => cases hclick
  | addOptions options =>
    rw [Operation.perform, addOptions, pending, Option.map_map]
    rfl
  | apply =>
    cases hdraft : p.draft with
    | none => rw [Operation.perform, apply, hdraft]
    | some d =>
      rw [Operation.perform, apply, hdraft, pending, pending, hdraft]
      rfl
  | _ => exact hop.elim

/-- An operation on a draft toggles the text it clicks, if any, and no other. -/
theorem base_perform {op : Operation} (hop : op.WorksOn table column)
    (hdraft : op.isSelect = true ∨ (p.draftFor? table column).isSome) :
    ((op.perform p).draftFor? table column).isSome ∧
      ∀ u, u ∈ texts ((op.perform p).base table column) ↔
        Xor (u ∈ texts (p.base table column)) (op.clicks u = true) := by
  cases hclick : op.isSelect with
  | true =>
    cases op with
    | select widget t c value options =>
      obtain ⟨rfl, rfl⟩ := hop
      have hnew := draftFor?_select p widget t c value options
      refine ⟨by rw [Operation.perform, hnew]; rfl, fun u => ?_⟩
      rw [Operation.perform, base, hnew]
      exact mem_texts_drafted p widget t c value options u
    | _ => cases hclick
  | false =>
    obtain ⟨d, hd⟩ := Option.isSome_iff_exists.mp (hdraft.resolve_left (by simp [hclick]))
    have hselected : ((op.perform p).draftFor? table column).map (·.selected) =
        some d.selected := by
      rw [selected_draftFor?, pending_perform hop hclick, ← selected_draftFor?, hd]
      rfl
    refine ⟨by rw [← Option.isSome_map, hselected]; rfl, fun u => ?_⟩
    rw [base, hselected, base, hd, Operation.clicks_of_not_isSelect hclick]
    simp [xor_def]

/-- While there is a draft for a column, and from the click that opens it, each text is toggled as
often as it is clicked. -/
theorem base_run {ops : List Operation} (hops : ∀ op ∈ ops, op.WorksOn table column)
    (hdraft : ops.head?.any Operation.isSelect = true ∨ (p.draftFor? table column).isSome) :
    ((p.run ops).draftFor? table column).isSome ∧
      ∀ u, u ∈ texts ((p.run ops).base table column) ↔
        Xor (u ∈ texts (p.base table column)) (Odd (ops.countP (Operation.clicks u))) := by
  induction ops generalizing p with
  | nil =>
    have hsome := hdraft.resolve_left (by simp)
    simp [run, hsome, xor_def]
  | cons op rest ih =>
    obtain ⟨hstep, htexts⟩ := base_perform (hops op List.mem_cons_self) hdraft
    obtain ⟨hrun, hparity⟩ := ih (fun o ho => hops o (List.mem_cons_of_mem _ ho)) (.inr hstep)
    refine ⟨hrun, fun u => (hparity u).trans ?_⟩
    rw [htexts u, List.countP_cons]
    by_cases hclick : op.clicks u = true
    · rw [if_pos hclick, Nat.odd_add_one]
      grind
    · rw [if_neg hclick, Nat.add_zero]
      grind

/-! ## Before the first click -/

/-- What the filter under the key of a column selects once the draft is applied. -/
def awaited (p : Panel) (table column : String) : List Datum :=
  ((p.pending.filter fun f => f.key == keyOf table column).map (·.values)).getD
    (p.store.applied table column)

theorem texts_applied_apply (p : Panel) (table column : String) :
    texts (p.apply.store.applied table column) = texts (p.awaited table column) := by
  cases hdraft : p.draft with
  | none => rw [apply, awaited, pending, hdraft]; rfl
  | some d =>
    have happlied := applied_apply hdraft
    have hpending : p.pending = some d.filter := by rw [pending, hdraft]; rfl
    by_cases hkey : d.filter.key = keyOf table column
    · have hawaited : p.awaited table column = d.selected := by
        rw [awaited, hpending, Option.filter_some, if_pos (beq_iff_eq.mpr hkey)]
        rfl
      rw [hawaited, Store.applied, Store.get?, ← hkey, show d.filter.key = d.key from rfl]
      by_cases hempty : d.selected = []
      · rw [happlied.cleared hempty, hempty]
        rfl
      · obtain ⟨f, hf, hsame⟩ := happlied.selected hempty
        rw [hf]
        exact texts_eq_of_sameSelection hsame
    · have hawaited : p.awaited table column = p.store.applied table column := by
        rw [awaited, hpending, Option.filter_some, if_neg (by simpa using hkey)]
        rfl
      rw [hawaited, Store.applied, Store.get?, happlied.others _ (Ne.symm hkey)]
      rfl

theorem store_perform {op : Operation} (hop : op.WorksOn table column) :
    (op.perform p).store = if op.isApply then p.apply.store else p.store := by
  cases op with
  | select | addOptions | apply => rfl
  | _ => exact hop.elim

/-- Before the first click only applying the draft has an effect on the applied values, and it has
the same effect each time. -/
theorem texts_applied_perform {op : Operation} (hop : op.WorksOn table column)
    (hclick : op.isSelect = false) :
    texts ((op.perform p).awaited table column) = texts (p.awaited table column) ∧
      texts ((op.perform p).store.applied table column) =
        if op.isApply then texts (p.awaited table column)
        else texts (p.store.applied table column) := by
  have happlied : texts ((op.perform p).store.applied table column) =
      if op.isApply then texts (p.awaited table column)
      else texts (p.store.applied table column) := by
    rw [store_perform hop]
    split
    · exact texts_applied_apply p table column
    · rfl
  refine ⟨?_, happlied⟩
  rw [awaited, pending_perform hop hclick]
  cases hpending : p.pending.filter fun f => f.key == keyOf table column with
  | some f => rw [awaited, hpending]; rfl
  | none =>
    have hawaited : p.awaited table column = p.store.applied table column := by
      rw [awaited, hpending]
      rfl
    rw [hawaited, ite_self] at happlied
    rw [hawaited]
    exact happlied

theorem texts_applied_run {ops : List Operation} (hops : ∀ op ∈ ops, op.WorksOn table column)
    (hclick : ∀ op ∈ ops, op.isSelect = false) :
    (p.run ops).pending = p.pending ∧
      texts ((p.run ops).store.applied table column) =
        if ops.any Operation.isApply then texts (p.awaited table column)
        else texts (p.store.applied table column) := by
  induction ops generalizing p with
  | nil => exact ⟨rfl, rfl⟩
  | cons op rest ih =>
    have hop := hops op List.mem_cons_self
    have hno := hclick op List.mem_cons_self
    obtain ⟨hawaited, happlied⟩ := texts_applied_perform (p := p) hop hno
    obtain ⟨hpending, hrest⟩ := ih (p := op.perform p)
      (fun o ho => hops o (List.mem_cons_of_mem _ ho))
      (fun o ho => hclick o (List.mem_cons_of_mem _ ho))
    refine ⟨hpending.trans (pending_perform hop hno), hrest.trans ?_⟩
    rw [hawaited, happlied, List.any_cons]
    cases op.isApply <;> simp

/-! ## Sessions -/

/-- The texts selected in the end are those that were applied at the start, with the texts that were
clicked an odd number of times the other way. -/
def Parity (p : Panel) (table column : String) (ops : List Operation) (d : Draft) : Prop :=
  ∀ u, u ∈ texts d.selected ↔
    Xor (u ∈ texts (p.store.applied table column)) (Odd (ops.countP (Operation.clicks u)))

/-- What was applied to a column at the start is still so, by text, when it is first clicked: no
draft with other texts is applied before under the same key. -/
def Undisturbed (p : Panel) (table column : String) (ops : List Operation) : Prop :=
  (ops.takeWhile fun op => !op.isSelect).any Operation.isApply = true →
    texts (p.awaited table column) = texts (p.store.applied table column)

/-- The options of a draft after a click hold, by kind and text, all that was offered, clicked,
selected or applied. -/
structure Offers (value : Datum) (options applied : List Datum) (d : Draft) : Prop where
  offered : ∀ v ∈ options, ∃ w ∈ d.options, w.key = v.key
  clicked : value.isNull = false → ∃ w ∈ d.options, w.key = value.key
  selected : ∀ v ∈ d.selected, ∃ w ∈ d.options, w.key = v.key
  applied : ∀ v ∈ applied, ∃ w ∈ d.options, w.key = v.key

theorem offers_drafted (p : Panel) (widget table column : String) (value : Datum)
    (options : List Datum) :
    Offers value options (p.store.applied table column)
      (p.drafted widget table column value options) where
  offered _ hv := exists_mem_mergeDistinct (by simp) hv
  clicked hvalue := by
    have hseed : [value] ∈ [options, (p.drafted widget table column value options).selected,
        p.store.applied table column, if value.isNull then [] else [value]] := by
      simp [hvalue]
    exact exists_mem_mergeDistinct hseed List.mem_cons_self
  selected _ hv := exists_mem_mergeDistinct (by simp [drafted]) hv
  applied _ hv := exists_mem_mergeDistinct (by simp) hv

/-- An operation on the draft for a column leaves no two options of one kind and text in it. -/
theorem nodup_options_perform {op : Operation} (hop : op.WorksOn table column)
    (h : ∀ d, p.draftFor? table column = some d → (d.options.map Datum.key).Nodup) :
    ∀ d, (op.perform p).draftFor? table column = some d → (d.options.map Datum.key).Nodup := by
  intro d hd
  cases op with
  | select widget t c value options =>
    obtain ⟨rfl, rfl⟩ := hop
    rw [Operation.perform, draftFor?_select] at hd
    obtain rfl := Option.some.inj hd
    exact nodup_distinct _
  | addOptions options =>
    obtain ⟨hthere, -⟩ := Option.filter_eq_some_iff.mp hd
    obtain ⟨e, -, rfl⟩ := Option.map_eq_some_iff.mp hthere
    exact nodup_distinct _
  | apply =>
    cases hdraft : p.draft with
    | none =>
      rw [Operation.perform, apply, hdraft] at hd
      exact h d hd
    | some e =>
      rw [Operation.perform, apply, hdraft] at hd
      obtain ⟨hthere, hcolumn⟩ := Option.filter_eq_some_iff.mp hd
      obtain rfl := Option.some.inj hthere
      exact h e (Option.filter_eq_some_iff.mpr ⟨hdraft, hcolumn⟩)
  | _ => exact hop.elim

theorem nodup_options_run {ops : List Operation} (hops : ∀ op ∈ ops, op.WorksOn table column)
    (h : ∀ d, p.draftFor? table column = some d → (d.options.map Datum.key).Nodup) :
    ∀ d, (p.run ops).draftFor? table column = some d → (d.options.map Datum.key).Nodup := by
  induction ops generalizing p with
  | nil => exact h
  | cons op rest ih =>
    exact ih (fun o ho => hops o (List.mem_cons_of_mem _ ho))
      (nodup_options_perform (hops op List.mem_cons_self) h)

/-- From the first click on, parity is counted from what is applied at that moment. -/
theorem texts_selected_run {ops before rest : List Operation} {click : Operation}
    (hsplit : ops = before ++ click :: rest) (hclick : click.isSelect = true)
    (hbefore : ∀ op ∈ before, op.isSelect = false) (hdraft : p.draftFor? table column = none)
    (hops : ∀ op ∈ ops, op.WorksOn table column) :
    ∃ d, (p.run ops).draftFor? table column = some d ∧
      ∀ u, u ∈ texts d.selected ↔ Xor (u ∈ texts ((p.run before).store.applied table column))
        (Odd (ops.countP (Operation.clicks u))) := by
  subst hsplit
  obtain ⟨hpending, -⟩ := texts_applied_run (p := p)
    (fun op hop => hops op (List.mem_append_left _ hop)) hbefore
  have hnone : ((p.run before).draftFor? table column).map (·.selected) = none := by
    rw [selected_draftFor?, hpending, ← selected_draftFor?, hdraft]
    rfl
  have hbase : (p.run before).base table column = (p.run before).store.applied table column := by
    rw [base, hnone]
    rfl
  have hrest : ∀ op ∈ click :: rest, op.WorksOn table column := fun op hop =>
    hops op (List.mem_append_right _ hop)
  obtain ⟨hsome, hparity⟩ := base_run (p := p.run before) hrest (.inl hclick)
  rw [← run_append] at hsome hparity
  obtain ⟨d, hd⟩ := Option.isSome_iff_exists.mp hsome
  refine ⟨d, hd, fun u => ?_⟩
  have hcount : before.countP (Operation.clicks u) = 0 :=
    List.countP_eq_zero.mpr fun op hop => by
      simp [Operation.clicks_of_not_isSelect (hbefore op hop) u]
  have hu := hparity u
  rw [hbase, base, hd] at hu
  rw [List.countP_append, hcount, Nat.zero_add]
  exact hu

/-- Whatever a panel and its store hold, with no draft for a column, and however its values are
clicked, options added and the draft applied: there is a draft in the end, with no two options of
one kind and text, and after each click it offered all that it should.  Its texts are those that
parity gives, exactly if nothing else was applied under the key of the column before the first
click. -/
theorem toggling_iff {ops : List Operation} (hdraft : p.draftFor? table column = none)
    (hops : ∀ op ∈ ops, op.WorksOn table column) (hclick : ∃ op ∈ ops, op.isSelect = true) :
    ∃ d, (p.run ops).draftFor? table column = some d ∧
      (Parity p table column ops d ↔ Undisturbed p table column ops) ∧
      (d.options.map Datum.key).Nodup ∧
      ∀ i widget value options, ops[i]? = some (.select widget table column value options) →
        ∃ e, (p.after ops (i + 1)).draftFor? table column = some e ∧
          Offers value options ((p.after ops (i + 1)).store.applied table column) e := by
  obtain ⟨click, hfind⟩ := Option.isSome_iff_exists.mp (List.find?_isSome.mpr hclick)
  obtain ⟨hclick, before, rest, hsplit, hbefore⟩ := List.find?_eq_some_iff_append.mp hfind
  have hno : ∀ op ∈ before, op.isSelect = false := fun op hop => by simpa using hbefore op hop
  have htake : (ops.takeWhile fun op => !op.isSelect) = before := by
    rw [hsplit, List.takeWhile_append_of_pos hbefore, List.takeWhile_cons_of_neg (by simp [hclick]),
      List.append_nil]
  have hbeforeOn : ∀ op ∈ before, op.WorksOn table column := fun op hop =>
    hops op (hsplit ▸ List.mem_append_left _ hop)
  obtain ⟨d, hd, htexts⟩ := texts_selected_run hsplit hclick hno hdraft hops
  obtain ⟨-, happlied⟩ := texts_applied_run (p := p) hbeforeOn hno
  have hundisturbed : Undisturbed p table column ops ↔
      texts ((p.run before).store.applied table column) =
        texts (p.store.applied table column) := by
    rw [Undisturbed, htake, happlied]
    split
    · rename_i hany
      exact ⟨fun h => h hany, fun h _ => h⟩
    · rename_i hany
      exact ⟨fun _ => rfl, fun _ h => (hany h).elim⟩
  refine ⟨d, hd, ?_, nodup_options_run hops (by simp [hdraft]) d hd, ?_⟩
  · rw [hundisturbed, Parity]
    constructor
    · intro h
      ext u
      have hu := (htexts u).symm.trans (h u)
      grind
    · intro h u
      rw [htexts u, h]
  · intro i widget value options hop
    rw [after_succ hop]
    exact ⟨_, draftFor?_select _ _ _ _ _ _, offers_drafted (p.after ops i) _ _ _ _ _⟩

/-- Milan is clicked, applied and clicked again, next to Rome. -/
theorem toggling_iff_twice :
    let p : Panel := { store := ⟨[⟨"sales", "city", [.text "Rome"]⟩], 1⟩ }
    let ops : List Operation := [.select "w" "sales" "city" (.text "Milan") [], .apply,
      .select "w" "sales" "city" (.text "Milan") []]
    p.draftFor? "sales" "city" = none ∧ (∀ op ∈ ops, op.WorksOn "sales" "city") ∧
      (∃ op ∈ ops, op.isSelect = true) ∧
      ∃ d, (p.run ops).draftFor? "sales" "city" = some d ∧ Parity p "sales" "city" ops d := by
  intro p ops
  have hops : ∀ op ∈ ops, op.WorksOn "sales" "city" := by
    simp [ops, Operation.WorksOn]
  have hclick : ∃ op ∈ ops, op.isSelect = true := ⟨_, List.mem_cons_self, rfl⟩
  obtain ⟨d, hd, hparity, -⟩ := toggling_iff (p := p) rfl hops hclick
  exact ⟨rfl, hops, hclick, d, hd, hparity.mpr fun h => nomatch h⟩

/-- Nothing disturbs a column whose key is that of no other column. -/
theorem undisturbed_of_unambiguous {ops : List Operation} (h : Unambiguous table column)
    (hdraft : p.draftFor? table column = none) : Undisturbed p table column ops := by
  intro _
  have hnone : (p.pending.filter fun f => f.key == keyOf table column) = none := by
    rw [Option.filter_eq_none_iff]
    intro f hf hkey
    obtain ⟨d, hd, rfl⟩ := Option.map_eq_some_iff.mp hf
    obtain ⟨htable, hcolumn⟩ := eq_of_keyOf_eq h (beq_iff_eq.mp hkey)
    simp [draftFor?, hd, show d.table = table from htable, show d.column = column from hcolumn]
      at hdraft
  rw [awaited, hnone]
  rfl

/-- The draft for the column `x` of the table `a::b` is applied before 2 is clicked in the column
`b::x` of the table `a`, and 1 is selected there too. -/
theorem not_toggling : ¬ ∀ (p : Panel) (table column : String) (ops : List Operation),
    p.draftFor? table column = none → (∀ op ∈ ops, op.WorksOn table column) →
      (∃ op ∈ ops, op.isSelect = true) →
      ∃ d, (p.run ops).draftFor? table column = some d ∧ Parity p table column ops d := by
  intro h
  let p : Panel := ({} : Panel).select "w" "a::b" "x" (.int 1) []
  let ops : List Operation := [.apply, .select "w" "a" "b::x" (.int 2) []]
  obtain ⟨d, hd, hparity⟩ := h p "a" "b::x" ops rfl (by simp [ops, Operation.WorksOn])
    ⟨_, List.mem_cons_of_mem _ List.mem_cons_self, rfl⟩
  have hselected : ((p.run ops).draftFor? "a" "b::x").map (·.selected) =
      some [.int 1, .int 2] := rfl
  rw [hd] at hselected
  obtain hselected : d.selected = [.int 1, .int 2] := Option.some.inj hselected
  have hone : "1" ∈ texts d.selected := by
    rw [hselected]
    exact ⟨.int 1, List.mem_cons_self, by decide +kernel⟩
  rcases (hparity "1").mp hone with ⟨⟨v, hv, -⟩, -⟩ | ⟨hodd, -⟩
  · cases hv
  · have hcount : ops.countP (Operation.clicks "1") = 0 := by decide +kernel
    rw [hcount] at hodd
    exact absurd hodd (by decide)

end Panel

end ChartBoard.Filtering
