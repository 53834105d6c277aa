import ChartBoard.Keyed
import Mathlib.Data.List.Nodup

/-!
# Values of keyed lists

* `get?_set` says what is found after a value has been set.
* `ofPairs_of_nodup` says that pairs with distinct keys are kept as they are, `get?_of_mem` that
  each of them is found.
* `mem_ofPairs_iff` says which of any pairs are kept: the last ones of their keys.
-/

namespace ChartBoard.Keyed

variable {α : Type} {pairs : List (String × α)} {key : String}

theorem get?_set (pairs : List (String × α)) (key : String) (value : α) (name : String) :
    get? (set pairs key value) name = if key = name then some value else get? pairs name := by
  induction pairs with
  | nil => simp [set, get?]
  | cons p rest ih =>
    obtain ⟨k, v⟩ := p
    by_cases hk : k = key
    · subst hk
      by_cases hname : k = name
      · simp [set, get?, hname]
      · simp [set, get?, hname]
    · by_cases hname : k = name
      · subst hname
        simp [set, get?, hk, Ne.symm hk]
      · simp [set, get?, hk, hname, ih]

theorem set_of_get? {value : α} (h : get? pairs key = some value) :
    set pairs key value = pairs := by
  induction pairs with
  | nil => cases h
  | cons p rest ih =>
    obtain ⟨k, v⟩ := p
    rw [get?] at h
    rw [set]
    split
    · rename_i hk
      rw [if_pos hk] at h
      rw [Option.some.inj h]
    · rename_i hk
      rw [if_neg hk] at h
      rw [ih h]

theorem mem_of_get? {value : α} (h : get? pairs key = some value) : (key, value) ∈ pairs := by
  induction pairs with
  | nil => cases h
  | cons p rest ih =>
    obtain ⟨k, v⟩ := p
    rw [get?] at h
    split at h
    · rename_i hk
      obtain rfl := Option.some.inj h
      rw [hk]
      exact List.mem_cons_self
    · exact List.mem_cons_of_mem _ (ih h)

theorem get?_of_mem (hnodup : (pairs.map (·.1)).Nodup) {value : α}
    (h : (key, value) ∈ pairs) : get? pairs key = some value := by
  induction pairs with
  | nil => cases h
  | cons p rest ih =>
    obtain ⟨k, v⟩ := p
    obtain ⟨hk, hrest⟩ := List.nodup_cons.mp hnodup
    rcases List.mem_cons.mp h with heq | hmem
    · obtain ⟨rfl, rfl⟩ := Prod.mk.inj heq
      simp [get?]
    · have hne : k ≠ key := by
        rintro rfl
        exact hk (List.mem_map.mpr ⟨_, hmem, rfl⟩)
      simp [get?, hne, ih hrest hmem]

theorem set_of_not_mem (h : key ∉ pairs.map (·.1)) (value : α) :
    set pairs key value = pairs ++ [(key, value)] := by
  induction pairs with
  | nil => rfl
  | cons p rest ih =>
    obtain ⟨k, v⟩ := p
    simp only [List.map_cons, List.mem_cons, not_or] at h
    rw [set, if_neg (Ne.symm h.1), ih h.2, List.cons_append]

theorem setAll_of_nodup {others : List (String × α)}
    (h : ((pairs ++ others).map (·.1)).Nodup) : setAll pairs others = pairs ++ others := by
  induction others generalizing pairs with
  | nil => simp [setAll]
  | cons p rest ih =>
    obtain ⟨k, v⟩ := p
    have hk : k ∉ pairs.map (·.1) := by
      rw [List.map_append, List.map_cons] at h
      exact fun hmem => (List.nodup_append.mp h).2.2 k hmem k List.mem_cons_self rfl
    have hrest : ((pairs ++ [(k, v)]) ++ rest).map (·.1) |>.Nodup := by
      simpa using h
    have hset : setAll pairs ((k, v) :: rest) = setAll (set pairs k v) rest := rfl
    rw [hset, set_of_not_mem hk, ih hrest, List.append_assoc, List.singleton_append]

theorem mem_of_mem_set {value : α} {p : String × α} (h : p ∈ set pairs key value) :
    p ∈ pairs ∨ p = (key, value) := by
  induction pairs with
  | nil => exact .inr (List.mem_singleton.mp h)
  | cons q rest ih =>
    obtain ⟨k, v⟩ := q
    rw [set] at h
    split at h
    · rename_i hk
      rcases List.mem_cons.mp h with hp | hp
      · exact .inr (hk ▸ hp)
      · exact .inl (List.mem_cons_of_mem _ hp)
    · rcases List.mem_cons.mp h with hp | hp
      · exact .inl (hp ▸ List.mem_cons_self)
      · exact (ih hp).imp_left (List.mem_cons_of_mem _)

theorem mem_of_mem_setAll {others : List (String × α)} {p : String × α}
    (h : p ∈ setAll pairs others) : p ∈ pairs ∨ p ∈ others := by
  induction others generalizing pairs with
  | nil => exact .inl h
  | cons q rest ih =>
    rcases ih h with hset | hrest
    · rcases mem_of_mem_set hset with hp | rfl
      · exact .inl hp
      · exact .inr List.mem_cons_self
    · exact .inr (List.mem_cons_of_mem _ hrest)

theorem mem_of_mem_ofPairs {p : String × α} (h : p ∈ ofPairs pairs) : p ∈ pairs :=
  (mem_of_mem_setAll h).resolve_left List.not_mem_nil

theorem ofPairs_of_nodup (h : (pairs.map (·.1)).Nodup) : ofPairs pairs = pairs :=
  setAll_of_nodup h

/-! ## The last pair of a key -/

/-- True of a pair that no later one with its key follows. -/
def IsLast (p : String × α) (pairs : List (String × α)) : Prop :=
  ∃ before after, pairs = before ++ p :: after ∧ p.1 ∉ after.map (·.1)

theorem isLast_cons {p q : String × α} :
    IsLast p (q :: pairs) ↔ IsLast p pairs ∨ q = p ∧ p.1 ∉ pairs.map (·.1) := by
  constructor
  · rintro ⟨before, after, hsplit, hafter⟩
    rcases List.cons_eq_append_iff.mp hsplit with ⟨rfl, heq⟩ | ⟨rest, rfl, rfl⟩
    · obtain ⟨rfl, rfl⟩ := List.cons.inj heq
      exact .inr ⟨rfl, hafter⟩
    · exact .inl ⟨rest, after, rfl, hafter⟩
  · rintro (⟨before, after, rfl, hafter⟩ | ⟨rfl, hp⟩)
    · exact ⟨q :: before, after, rfl, hafter⟩
    · exact ⟨[], pairs, rfl, hp⟩

theorem map_fst_set (pairs : List (String × α)) (key : String) (value : α) :
    (set pairs key value).map (·.1) =
      if key ∈ pairs.map (·.1) then pairs.map (·.1) else pairs.map (·.1) ++ [key] := by
  induction pairs with
  | nil => rfl
  | cons p rest ih =>
    obtain ⟨k, v⟩ := p
    by_cases hk : k = key
    · simp [set, hk]
    · simp only [set, if_neg hk, List.map_cons, ih, List.mem_cons, Ne.symm hk, false_or]
      split <;> rfl

theorem nodup_set (h : (pairs.map (·.1)).Nodup) (key : String) (value : α) :
    ((set pairs key value).map (·.1)).Nodup := by
  rw [map_fst_set]
  split
  · exact h
  · rename_i hkey
    rw [List.nodup_append]
    exact ⟨h, List.nodup_singleton key, fun a ha b hb heq =>
      hkey (List.mem_singleton.mp hb ▸ heq ▸ ha)⟩

theorem nodup_setAll (h : (pairs.map (·.1)).Nodup) (others : List (String × α)) :
    ((setAll pairs others).map (·.1)).Nodup := by
  induction others generalizing pairs with
  | nil => exact h
  | cons p rest ih => exact ih (nodup_set h p.1 p.2)

/-- What is found under a key is what it was set to last, or else what was there before. -/
theorem get?_setAll_iff {others : List (String × α)} {value : α} :
    get? (setAll pairs others) key = some value ↔ IsLast (key, value) others ∨
      key ∉ others.map (·.1) ∧ get? pairs key = some value := by
  induction others generalizing pairs with
  | nil => simp [setAll, IsLast]
  | cons p rest ih =>
    obtain ⟨k, v⟩ := p
    have hset : setAll pairs ((k, v) :: rest) = setAll (set pairs k v) rest := rfl
    rw [hset, ih, get?_set, isLast_cons]
    by_cases hk : k = key
    · subst hk
      simp [and_comm]
    · simp [hk, Ne.symm hk]

/-- Of the pairs with one key the last is kept. -/
theorem mem_ofPairs_iff {p : String × α} : p ∈ ofPairs pairs ↔ IsLast p pairs := by
  have hget : get? (ofPairs pairs) p.1 = some p.2 ↔ IsLast p pairs := by
    rw [ofPairs, get?_setAll_iff]
    simp [get?]
  rw [← hget]
  have hnodup : ((ofPairs pairs).map (·.1)).Nodup :=
    nodup_setAll (by rw [List.map_nil]; exact List.nodup_nil) pairs
  exact ⟨get?_of_mem hnodup, mem_of_get?⟩

end ChartBoard.Keyed
