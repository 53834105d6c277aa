import ChartBoard.Datum.Unique
import Mathlib.Data.List.Induction
import Mathlib.Data.List.Sort
import Mathlib.Data.String.Basic

/-!
# Distinct texts and equal selections

Two selections are the same when they hold the same values, each equally often.

* `mem_distinctTexts` says that no text is lost among the distinct ones, `distinctTexts_concat` that
  each is listed where it comes first.
* `FirstSeen` says that the texts with a property are listed once each in the order in which they
  are first seen, and `firstSeen_distinctTexts` that the distinct ones are.
* `sameSelection_iff_perm` compares the keys of the values; the laws of an equivalence follow.
-/

namespace ChartBoard

theorem mem_distinctTexts {texts : List String} {s : String} :
    s ∈ distinctTexts texts ↔ s ∈ texts := by
  have hfrom (seen : List String) :
      s ∈ texts.foldl (fun acc t => if t ∈ acc then acc else t :: acc) seen ↔
        s ∈ seen ∨ s ∈ texts := by
    induction texts generalizing seen with
    | nil => simp
    | cons t rest ih =>
      rw [List.foldl_cons, ih, List.mem_cons]
      by_cases ht : t ∈ seen
      · rw [if_pos ht]
        refine ⟨fun h => h.imp_right .inr, ?_⟩
        rintro (hseen | rfl | hrest)
        · exact .inl hseen
        · exact .inl ht
        · exact .inr hrest
      · rw [if_neg ht, List.mem_cons]
        tauto
  rw [distinctTexts, List.mem_reverse, hfrom]
  simp

/-- A text is listed where it comes first. -/
theorem distinctTexts_concat (texts : List String) (s : String) :
    distinctTexts (texts ++ [s]) =
      if s ∈ texts then distinctTexts texts else distinctTexts texts ++ [s] := by
  have hseen : s ∈ distinctTexts texts ↔ s ∈ texts := mem_distinctTexts
  rw [distinctTexts, List.mem_reverse] at hseen
  simp only [distinctTexts, List.foldl_append, List.foldl_cons, List.foldl_nil, hseen]
  split
  · rfl
  · rw [List.reverse_cons]

theorem nodup_distinctTexts (texts : List String) : (distinctTexts texts).Nodup := by
  induction texts using List.reverseRecOn with
  | nil => exact List.nodup_nil
  | append_singleton texts s ih =>
    rw [distinctTexts_concat]
    split
    · exact ih
    · rename_i hnew
      rw [← List.concat_eq_append, List.nodup_concat, mem_distinctTexts]
      exact ⟨hnew, ih⟩

/-- The first text with a property is also the first of the distinct ones. -/
theorem find?_distinctTexts (p : String → Bool) (texts : List String) :
    (distinctTexts texts).find? p = texts.find? p := by
  induction texts using List.reverseRecOn with
  | nil => rfl
  | append_singleton texts s ih =>
    rw [distinctTexts_concat, List.find?_append]
    split
    · rename_i hseen
      rw [ih]
      cases hfind : texts.find? p with
      | some t => rfl
      | none =>
        have hs : p s = false := by simpa using List.find?_eq_none.mp hfind s hseen
        simp [hs]
    · rw [List.find?_append, ih]

theorem distinctTexts_append_of_forall_mem {texts more : List String} (h : ∀ s ∈ more, s ∈ texts) :
    distinctTexts (texts ++ more) = distinctTexts texts := by
  induction more using List.reverseRecOn with
  | nil => rw [List.append_nil]
  | append_singleton more s ih =>
    have hs : s ∈ texts ++ more := List.mem_append_left _ (h s (by simp))
    rw [← List.append_assoc, distinctTexts_concat, if_pos hs]
    exact ih fun t ht => h t (List.mem_append_left _ ht)

theorem distinctTexts_isPrefix_append (texts more : List String) :
    distinctTexts texts <+: distinctTexts (texts ++ more) := by
  induction more using List.reverseRecOn with
  | nil => exact ⟨[], by simp⟩
  | append_singleton more s ih =>
    rw [← List.append_assoc, distinctTexts_concat]
    split
    · exact ih
    · exact ih.trans (List.prefix_append _ _)

/-- The texts with a property, each once, in the order in which they are first seen. -/
structure FirstSeen (wanted : String → Prop) (texts kept : List String) : Prop where
  mem : ∀ s, s ∈ kept ↔ s ∈ texts ∧ wanted s
  order : kept.Pairwise fun s t => texts.idxOf s < texts.idxOf t

theorem pairwise_idxOf_distinctTexts (texts : List String) :
    (distinctTexts texts).Pairwise fun s t => texts.idxOf s < texts.idxOf t := by
  induction texts using List.reverseRecOn with
  | nil => exact .nil
  | append_singleton texts s ih =>
    have hkept {t : String} (ht : t ∈ distinctTexts texts) :
        (texts ++ [s]).idxOf t = texts.idxOf t :=
      List.idxOf_append_of_mem (mem_distinctTexts.mp ht)
    have hold : (distinctTexts texts).Pairwise fun t u =>
        (texts ++ [s]).idxOf t < (texts ++ [s]).idxOf u :=
      ih.imp_of_mem fun ht hu h => by rwa [hkept ht, hkept hu]
    rw [distinctTexts_concat]
    split
    · exact hold
    · rename_i hnew
      refine List.pairwise_append.mpr ⟨hold, List.pairwise_singleton _ _, fun t ht u hu => ?_⟩
      obtain rfl := List.mem_singleton.mp hu
      rw [hkept ht, List.idxOf_append, if_neg hnew]
      exact Nat.lt_add_left _ (List.idxOf_lt_length_of_mem (mem_distinctTexts.mp ht))

theorem firstSeen_distinctTexts (texts : List String) :
    FirstSeen (fun _ => True) texts (distinctTexts texts) where
  mem s := by rw [mem_distinctTexts, and_true]
  order := pairwise_idxOf_distinctTexts texts

theorem FirstSeen.filter {texts kept : List String} (h : FirstSeen (fun _ => True) texts kept)
    {p : String → Bool} {wanted : String → Prop} (hp : ∀ s, p s = true ↔ wanted s) :
    FirstSeen wanted texts (kept.filter p) where
  mem s := by rw [List.mem_filter, h.mem, and_true, hp]
  order := h.order.filter p

variable {left middle right : List Datum}

theorem sameSelection_iff_perm :
    sameSelection left right = true ↔ (left.map Datum.key).Perm (right.map Datum.key) := by
  unfold sameSelection
  rw [beq_iff_eq]
  constructor
  · intro h
    have hleft := List.mergeSort_perm (left.map Datum.key) (· ≤ ·)
    have hright := List.mergeSort_perm (right.map Datum.key) (· ≤ ·)
    exact hleft.symm.trans (h ▸ hright)
  · intro h
    have hsorted (keys : List String) : (keys.mergeSort (· ≤ ·)).Pairwise (· ≤ ·) := by
      have htrans (a b c : String) : decide (a ≤ b) → decide (b ≤ c) → decide (a ≤ c) := by
        simpa using le_trans
      have htotal (a b : String) : decide (a ≤ b) || decide (b ≤ a) := by
        simpa using le_total a b
      simpa using List.pairwise_mergeSort htrans htotal keys
    refine List.Perm.eq_of_pairwise (fun a b _ _ => le_antisymm) (hsorted _) (hsorted _) ?_
    exact (List.mergeSort_perm _ _).trans (h.trans (List.mergeSort_perm _ _).symm)

theorem sameSelection_refl (values : List Datum) : sameSelection values values = true :=
  sameSelection_iff_perm.mpr (List.Perm.refl _)

theorem sameSelection_symm (h : sameSelection left right = true) :
    sameSelection right left = true :=
  sameSelection_iff_perm.mpr (sameSelection_iff_perm.mp h).symm

end ChartBoard
