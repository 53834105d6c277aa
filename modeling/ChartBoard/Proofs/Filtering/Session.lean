import ChartBoard.Filtering.Operation
import ChartBoard.Proofs.Filtering.Store

/-!
# Sessions with the filter panel

What holds at every moment of a session, whatever is done to the store and in the panel.

* `Panel.follows_run` says that the version of the store counts what happens to it.
* `Applied` says what it is for a draft to be applied, `applied_apply` that `Panel.apply` does it.
* `session_keeps` puts this together for every run of operations.
-/

namespace ChartBoard.Filtering

open Store (Follows)

namespace Panel

variable {p : Panel} {d : Draft}

/-! ## Applying a draft -/

theorem follows_committed (s : Store) (d : Draft) : Follows s (committed s d) := by
  unfold committed
  split
  · exact Store.follows_erase s d.table d.column
  · exact Store.follows_put s d.filter

theorem find?_committed_of_ne (s : Store) (d : Draft) {key : String} (h : key ≠ d.key) :
    (committed s d).find? key = s.find? key := by
  unfold committed
  split
  · rw [Store.find?_erase, if_neg]
    exact fun heq => h heq.symm
  · exact Store.find?_put_of_ne s fun heq => h heq.symm

theorem committed_committed (s : Store) (d : Draft) :
    committed (committed s d) d = committed s d := by
  by_cases hempty : d.selected.isEmpty = true
  · have hgone : (s.erase d.table d.column).find? (keyOf d.table d.column) = none := by
      rw [Store.find?_erase, if_pos rfl]
    rw [committed, committed, if_pos hempty, if_pos hempty]
    exact Store.erase_of_find? hgone
  · obtain ⟨f, hf, hsame⟩ := Store.exists_find?_put s d.filter
    rw [committed, committed, if_neg hempty, if_neg hempty]
    exact Store.put_of_find? hf hsame

/-- A panel after its draft has been applied: the store has the selection of the draft, or no filter
when the draft selects nothing; all other filters are as before; and there is nothing left to
apply. -/
structure Applied (d : Draft) (before after : Panel) : Prop where
  selected : d.selected ≠ [] →
    ∃ f, after.store.find? d.key = some f ∧ sameSelection f.values d.selected = true
  cleared : d.selected = [] → after.store.find? d.key = none
  others : ∀ key, key ≠ d.key → after.store.find? key = before.store.find? key
  settled : after.hasPendingChanges = false
  again : after.changes = false ∧ after.apply.store = after.store

theorem applied_apply (h : p.draft = some d) : Applied d p p.apply := by
  have happly : p.apply = ⟨committed p.store d, some { d with touched := false }⟩ := by
    rw [apply, h]
  have hagain : p.apply.apply.store = p.apply.store := by
    rw [happly]
    exact committed_committed p.store d
  have hselected (hne : d.selected ≠ []) :
      ∃ f, p.apply.store.find? d.key = some f ∧ sameSelection f.values d.selected = true := by
    rw [happly, committed, if_neg (by simpa using hne)]
    exact Store.exists_find?_put p.store d.filter
  have hcleared (heq : d.selected = []) : p.apply.store.find? d.key = none := by
    rw [happly, committed, if_pos (by simpa using heq), Store.find?_erase]
    exact if_pos rfl
  refine ⟨hselected, hcleared, fun key hkey => ?_, ?_, ?_, hagain⟩
  · rw [happly]
    exact find?_committed_of_ne p.store d hkey
  · have hsame : sameSelection d.selected (p.apply.store.applied d.table d.column) = true := by
      by_cases hempty : d.selected = []
      · rw [Store.applied, Store.get?, show keyOf d.table d.column = d.key from rfl,
          hcleared hempty, hempty]
        exact sameSelection_refl []
      · obtain ⟨f, hf, hsame⟩ := hselected hempty
        rw [Store.applied, Store.get?, show keyOf d.table d.column = d.key from rfl, hf]
        exact sameSelection_symm hsame
    rw [happly] at hsame ⊢
    simp only [hasPendingChanges, hsame, Bool.not_true]
  · rw [changes, hagain]
    exact bne_self_eq_false _

/-! ## Sessions -/

/-- An operation changes the store only together with its version. -/
theorem follows_perform (p : Panel) (op : Operation) : Follows p.store (op.perform p).store := by
  cases op with
  | set f => exact Store.follows_put p.store f
  | clear table column => exact Store.follows_erase p.store table column
  | clearAll => exact Store.follows_clear p.store
  | replaceAll filters => exact Store.follows_replaceAll p.store filters
  | select => exact Follows.refl _
  | addOptions => exact Follows.refl _
  | apply =>
    rw [Operation.perform, apply]
    split
    · exact follows_committed p.store _
    · exact Follows.refl _
  | discard => exact Follows.refl _
  | look => exact Follows.refl _

theorem follows_run (p : Panel) (ops : List Operation) : Follows p.store (p.run ops).store := by
  induction ops generalizing p with
  | nil => exact Follows.refl _
  | cons op ops ih => exact (follows_perform p op).trans (ih (op.perform p))

theorem store_perform_of_isDrafting {op : Operation} (h : op.isDrafting = true) :
    (op.perform p).store = p.store := by
  cases op with
  | select => rfl
  | addOptions => rfl
  | discard => rfl
  | look => rfl
  | _ => cases h

theorem run_append (p : Panel) (ops more : List Operation) :
    p.run (ops ++ more) = (p.run ops).run more :=
  List.foldl_append

/-- The moment after the first operations of a session. -/
def after (p : Panel) (ops : List Operation) (i : Nat) : Panel := p.run (ops.take i)

theorem after_succ {ops : List Operation} {i : Nat} {op : Operation} (h : ops[i]? = some op) :
    p.after ops (i + 1) = op.perform (p.after ops i) := by
  have htake : ops.take (i + 1) = ops.take i ++ [op] := by
    rw [List.take_add_one, h]
    rfl
  rw [after, htake, run_append]
  rfl

theorem follows_after (ops : List Operation) {i j : Nat} (h : i ≤ j) :
    Follows (p.after ops i).store (p.after ops j).store := by
  have hsplit : ops.take j = ops.take i ++ (ops.drop i).take (j - i) := by
    rw [← List.take_add, Nat.add_sub_cancel' h]
  rw [after, after, hsplit, run_append]
  exact follows_run _ _

/-- In every session, whatever the panel and its store are at the start:

* the version of the store never goes back, and at two moments with one version the active filters
  are the same;
* drafting does not touch the store;
* a draft is applied as `Applied` says. -/
theorem session_keeps (p : Panel) (ops : List Operation) :
    (∀ i j, i ≤ j → (p.after ops i).store.version ≤ (p.after ops j).store.version) ∧
    (∀ i j, (p.after ops i).store.version = (p.after ops j).store.version →
      (p.after ops i).store.filters = (p.after ops j).store.filters) ∧
    (∀ i op, ops[i]? = some op → op.isDrafting = true →
      (p.after ops (i + 1)).store = (p.after ops i).store) ∧
    (∀ i d, ops[i]? = some .apply → (p.after ops i).draft = some d →
      Applied d (p.after ops i) (p.after ops (i + 1))) := by
  refine ⟨fun i j hij => (follows_after ops hij).version_le, fun i j hversion => ?_,
    fun i op hop hdrafting => ?_, fun i d hop hdraft => ?_⟩
  · rcases Nat.le_total i j with hij | hji
    · rw [(follows_after ops hij).eq_of_version_eq hversion]
    · rw [(follows_after ops hji).eq_of_version_eq hversion.symm]
  · rw [after_succ hop, store_perform_of_isDrafting hdrafting]
  · rw [after_succ hop]
    exact applied_apply hdraft

end Panel

end ChartBoard.Filtering
