import ChartBoard.Filtering.Store
import ChartBoard.Proofs.Datum.Selection

/-!
# What the store holds after an operation

* `find?_put` and `find?_erase` give the filter under every key after an operation.
* `Follows` says of two stores that nothing happens without the version growing; each operation
  makes it true.
-/

namespace ChartBoard.Filtering

namespace Store

variable {s : Store} {new f : ActiveFilter} {key : String}

/-! ## Filters by key -/

theorem find?_cons (f : ActiveFilter) (rest : List ActiveFilter) (key : String) :
    ((f :: rest).find? fun f => f.key == key) =
      if f.key = key then some f else rest.find? fun f => f.key == key := by
  rw [List.find?_cons]
  split
  · rename_i h
    rw [if_pos (beq_iff_eq.mp h)]
  · rename_i h
    rw [if_neg (by simpa using h)]

theorem find?_place (new : ActiveFilter) (filters : List ActiveFilter) (key : String) :
    ((place new filters).find? fun f => f.key == key) =
      if new.key = key then some new else filters.find? fun f => f.key == key := by
  induction filters with
  | nil => exact find?_cons new [] key
  | cons f rest ih =>
    rw [place]
    by_cases hf : f.key = new.key
    · rw [if_pos hf, find?_cons, find?_cons, hf]
      split <;> rfl
    · rw [if_neg hf, find?_cons, find?_cons, ih]
      by_cases hkey : f.key = key
      · have hnew : new.key ≠ key := fun hnew => hf (hkey.trans hnew.symm)
        rw [if_pos hkey, if_neg hnew, if_pos hkey]
      · rw [if_neg hkey, if_neg hkey]

theorem find?_put_of_ne (s : Store) (h : new.key ≠ key) : (s.put new).find? key = s.find? key := by
  unfold put
  split
  · rfl
  · exact (find?_place new s.filters key).trans (if_neg h)

/-- The filter that was set is there, or one with the same selection was there already. -/
theorem find?_put_self (s : Store) (new : ActiveFilter) :
    (s.put new).find? new.key = some new ∨ (s.put new = s ∧ ∃ f, s.find? new.key = some f ∧
      sameSelection f.values new.values = true) := by
  unfold put
  by_cases hholds : s.holds new = true
  · rw [if_pos hholds]
    unfold holds at hholds
    split at hholds
    · rename_i f hf
      exact Or.inr ⟨rfl, f, hf, hholds⟩
    · cases hholds
  · rw [if_neg hholds]
    exact Or.inl ((find?_place new s.filters new.key).trans (if_pos rfl))

theorem exists_find?_put (s : Store) (new : ActiveFilter) :
    ∃ f, (s.put new).find? new.key = some f ∧ sameSelection f.values new.values = true := by
  rcases find?_put_self s new with hnew | ⟨hsame, f, hf, hselection⟩
  · exact ⟨new, hnew, sameSelection_refl _⟩
  · rw [hsame]
    exact ⟨f, hf, hselection⟩

theorem find?_erase (s : Store) (table column key : String) :
    (s.erase table column).find? key =
      if keyOf table column = key then none else s.find? key := by
  unfold erase
  by_cases hkey : keyOf table column = key
  · subst hkey
    rw [if_pos rfl]
    split
    · simp [find?]
    · rename_i hnone
      simpa [get?] using hnone
  · rw [if_neg hkey]
    split
    · unfold find?
      rw [List.find?_filter]
      congr 1
      funext f
      by_cases hf : f.key = key
      · simp [hf, Ne.symm hkey]
      · simp [hf]
    · rfl

theorem find?_clear (s : Store) (key : String) : s.clear.find? key = none := by
  unfold clear
  split
  · rename_i hempty
    simp [find?, List.isEmpty_iff.mp hempty]
  · rfl

/-! ## Versions -/

/-- A store after another one: nothing has happened to it, or its version has grown. -/
def Follows (before after : Store) : Prop := after = before ∨ before.version < after.version

theorem Follows.refl (s : Store) : Follows s s := Or.inl rfl

theorem Follows.trans {first middle last : Store} (h : Follows first middle)
    (h' : Follows middle last) : Follows first last := by
  rcases h with rfl | h
  · exact h'
  · rcases h' with rfl | h'
    · exact Or.inr h
    · exact Or.inr (h.trans h')

theorem Follows.version_le {before after : Store} (h : Follows before after) :
    before.version ≤ after.version := by
  rcases h with rfl | h
  · exact le_rfl
  · exact h.le

theorem Follows.eq_of_version_eq {before after : Store} (h : Follows before after)
    (hversion : before.version = after.version) : after = before := by
  rcases h with rfl | h
  · rfl
  · omega

theorem follows_put (s : Store) (new : ActiveFilter) : Follows s (s.put new) := by
  unfold put
  split
  · exact Or.inl rfl
  · exact Or.inr (Nat.lt_succ_self _)

theorem follows_erase (s : Store) (table column : String) : Follows s (s.erase table column) := by
  unfold erase
  split
  · exact Or.inr (Nat.lt_succ_self _)
  · exact Or.inl rfl

theorem follows_clear (s : Store) : Follows s s.clear := by
  unfold clear
  split
  · exact Or.inl rfl
  · exact Or.inr (Nat.lt_succ_self _)

theorem follows_replaceAll (s : Store) (filters : List ActiveFilter) :
    Follows s (s.replaceAll filters) := Or.inr (Nat.lt_succ_self _)

theorem put_of_find? (h : s.find? new.key = some f)
    (hsame : sameSelection f.values new.values = true) : s.put new = s := by
  have hholds : s.holds new = true := by
    rw [holds, h]
    exact hsame
  rw [put, if_pos hholds]

theorem erase_of_find? {table column : String} (h : s.find? (keyOf table column) = none) :
    s.erase table column = s := by
  rw [erase, get?, h]
  rfl

end Store

end ChartBoard.Filtering
