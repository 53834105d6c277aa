import ChartBoard.Datum.Parts
import ChartBoard.Proofs.Datum.Record

/-!
# How deep values nest

Lists and objects lie one level above their parts.

* `levels_list_le` and `levels_object_le` bound the levels of a list or an object by those of its
  parts, `levels_get` and `levels_set` are about the members of an object.
* `copied_eq_ok` says which objects are copied.
* `nestedList` is a list of a given number of levels.
-/

namespace ChartBoard

namespace Datum

theorem itemLevels_le {items : List Datum} {n : Nat} :
    itemLevels items ≤ n ↔ ∀ v ∈ items, v.levels ≤ n := by
  induction items with
  | nil => simp [itemLevels]
  | cons v rest ih => rw [itemLevels, Nat.max_le, ih, List.forall_mem_cons]

theorem memberLevels_le {members : Record} {n : Nat} :
    memberLevels members ≤ n ↔ ∀ m ∈ members, m.2.levels ≤ n := by
  induction members with
  | nil => simp [memberLevels]
  | cons m rest ih =>
    obtain ⟨name, v⟩ := m
    rw [memberLevels, Nat.max_le, ih, List.forall_mem_cons]

theorem levels_list_le {items : List Datum} {n : Nat} :
    (list items).levels ≤ n + 1 ↔ ∀ v ∈ items, v.levels ≤ n := by
  rw [levels, Nat.add_le_add_iff_right, itemLevels_le]

theorem levels_list_map_le {α : Type} {f : α → Datum} {xs : List α} {n : Nat} :
    (list (xs.map f)).levels ≤ n + 1 ↔ ∀ x ∈ xs, (f x).levels ≤ n := by
  rw [levels_list_le, List.forall_mem_map]

theorem levels_object_le {members : Record} {n : Nat} :
    (object members).levels ≤ n + 1 ↔ ∀ m ∈ members, m.2.levels ≤ n := by
  rw [levels, Nat.add_le_add_iff_right, memberLevels_le]

theorem levels_text (s : String) : (text s).levels = 0 := rfl

theorem levels_ofText? (s : Option String) : (ofText? s).levels = 0 := by
  cases s <;> rfl

theorem levels_texts (xs : List String) : (texts xs).levels ≤ 1 :=
  levels_list_map_le.mpr fun s _ => Nat.le_of_eq (levels_text s)

/-! ## Members -/

section

variable {v : Datum} {r : Record} {n : Nat}

theorem levels_get (h : v.levels ≤ n + 1) (name : String) : (v.get name).levels ≤ n := by
  cases v with
  | object r =>
    rw [get_object, Record.get]
    cases hfound : Record.get? r name with
    | none => exact Nat.zero_le n
    | some w => exact levels_object_le.mp h _ (Keyed.mem_of_get? hfound)
  | _ => exact Nat.zero_le n

theorem levels_members (h : v.levels ≤ n + 1) : (object v.members).levels ≤ n + 1 := by
  cases v with
  | object r => exact h
  | _ => exact levels_object_le.mpr fun _ hm => absurd hm List.not_mem_nil

theorem levels_of_mem_asList? (h : v.levels ≤ n + 1) {items : List Datum}
    (hitems : v.asList? = some items) : ∀ w ∈ items, w.levels ≤ n := by
  rw [asList?_eq_some] at hitems
  rw [hitems] at h
  exact levels_list_le.mp h

theorem levels_set (h : (object r).levels ≤ n + 1) (hv : v.levels ≤ n) (name : String) :
    (object (Record.set r name v)).levels ≤ n + 1 := by
  rw [levels_object_le] at h ⊢
  intro m hm
  rcases Keyed.mem_of_mem_set hm with hr | rfl
  · exact h m hr
  · exact hv

end

/-! ## Lists of any depth -/

/-- A list in a list and so on, of which the innermost is empty. -/
def nestedList : Nat → Datum
  | 0 => list []
  | n + 1 => list [nestedList n]

theorem levels_nestedList (n : Nat) : (nestedList n).levels = n + 1 := by
  induction n with
  | zero => rfl
  | succ n ih => rw [nestedList, levels, itemLevels, ih, itemLevels, Nat.max_zero]

end Datum

/-! ## Copies -/

namespace Record

variable {most : Nat} {r copy : Record}

theorem copied_of_le (h : (Datum.object r).levels ≤ most) : copied most r = .ok r := if_pos h

theorem copied_of_lt (h : most < (Datum.object r).levels) :
    copied most r = .error .tooDeepToCopy := if_neg (Nat.not_le_of_lt h)

theorem copied_eq_ok :
    copied most r = .ok copy ↔ (Datum.object r).levels ≤ most ∧ r = copy := by
  unfold copied
  split
  · rename_i h
    simp [h]
  · rename_i h
    simp [h]

end Record

end ChartBoard
