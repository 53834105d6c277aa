import ChartBoard.Text.Search

/-!
# Cuts at a word

* `split?_append` says where a text is cut at a word, `split?_eq_none` when it is not cut at all.
* `takeWhile_append_cons` and `dropWhile_append_cons` cut a text at the first character of a class.
* `pieces_eq_splitOn` says that the pieces of a text are those of the library.
-/

namespace ChartBoard.Text

section

variable {p : Char → Bool} {c : Char} {cs : List Char}

theorem takeWhile_append_cons (hcs : ∀ d ∈ cs, p d = true) (hc : p c = false)
    (rest : List Char) : (cs ++ c :: rest).takeWhile p = cs := by
  rw [List.takeWhile_append_of_pos hcs, List.takeWhile_cons_of_neg (by simp [hc]), List.append_nil]

theorem dropWhile_append_cons (hcs : ∀ d ∈ cs, p d = true) (hc : p c = false)
    (rest : List Char) : (cs ++ c :: rest).dropWhile p = c :: rest := by
  rw [List.dropWhile_append_of_pos hcs, List.dropWhile_cons_of_neg (by simp [hc])]

/-- A text is cut at the first character that is not of a class. -/
theorem eq_takeWhile_append_of_dropWhile {rest : List Char} (h : cs.dropWhile p = c :: rest) :
    p c = false ∧ cs = cs.takeWhile p ++ c :: rest := by
  have hhead := List.head_dropWhile_not p (l := cs) (by simp [h])
  simp only [h, List.head_cons] at hhead
  exact ⟨by simpa using hhead, by rw [← h, List.takeWhile_append_dropWhile]⟩

end

theorem startsWith?_eq_some_iff {word cs rest : List Char} :
    startsWith? word cs = some rest ↔ cs = word ++ rest := by
  induction word generalizing cs with
  | nil => rw [startsWith?, Option.some_inj, List.nil_append]
  | cons w word ih =>
    cases cs with
    | nil => exact iff_of_false (fun h => nomatch h) (fun h => nomatch h)
    | cons c cs =>
      rw [startsWith?, List.cons_append, List.cons.injEq, ← ih]
      split
      · rename_i hc
        simp [hc]
      · rename_i hc
        simp [Ne.symm hc]

theorem startsWith?_append (word rest : List Char) :
    startsWith? word (word ++ rest) = some rest := startsWith?_eq_some_iff.mpr rfl

/-- A text is cut at a word if the first letter of the word does not occur before. -/
theorem split?_append {w : Char} {ws before : List Char} (h : w ∉ before) (after : List Char) :
    split? (w :: ws) (before ++ (w :: ws ++ after)) = some (before, after) := by
  induction before with
  | nil => rw [List.nil_append, List.cons_append, split?, ← List.cons_append, startsWith?_append]
  | cons c before ih =>
    have hc : w ≠ c := fun heq => h (heq ▸ List.mem_cons_self)
    rw [List.cons_append, split?, startsWith?, if_neg hc,
      ih fun hw => h (List.mem_cons_of_mem c hw)]
    rfl

theorem split?_eq_none {w : Char} {ws cs : List Char} (h : w ∉ cs) :
    split? (w :: ws) cs = none := by
  induction cs with
  | nil => rfl
  | cons c cs ih =>
    have hc : w ≠ c := fun heq => h (heq ▸ List.mem_cons_self)
    rw [split?, startsWith?, if_neg hc, ih fun hw => h (List.mem_cons_of_mem c hw)]
    rfl

/-! ## Pieces and slices -/

theorem pieces_eq_splitOn (sep : Char) (cs : List Char) : pieces sep cs = cs.splitOn sep := by
  induction cs with
  | nil => rfl
  | cons c cs ih =>
    rw [pieces, List.splitOn_cons_eq_if_modifyHead, ih]
    cases hrest : cs.splitOn sep with
    | nil => exact absurd hrest (List.splitOn_ne_nil sep cs)
    | cons piece rest => simp only [beq_iff_eq, List.modifyHead_cons]

theorem not_mem_of_mem_pieces {sep : Char} {cs piece : List Char} (h : piece ∈ pieces sep cs) :
    sep ∉ piece := by
  induction cs generalizing piece with
  | nil => simp [List.mem_singleton.mp h]
  | cons c cs ih =>
    rw [pieces] at h
    cases hrest : pieces sep cs with
    | nil => exact absurd (pieces_eq_splitOn sep cs ▸ hrest) (List.splitOn_ne_nil sep cs)
    | cons first rest =>
      rw [hrest] at h ih
      have hfirst : sep ∉ first := ih List.mem_cons_self
      by_cases hc : c = sep
      · simp only [if_pos hc] at h
        rcases List.mem_cons.mp h with rfl | h
        · exact List.not_mem_nil
        · exact ih h
      · simp only [if_neg hc] at h
        rcases List.mem_cons.mp h with rfl | h
        · exact fun hmem => (List.mem_cons.mp hmem).elim (Ne.symm hc) hfirst
        · exact ih (List.mem_cons_of_mem first h)

theorem infix_intercalate_of_mem {sep part : List Char} {parts : List (List Char)}
    (h : part ∈ parts) : part <:+: sep.intercalate parts := by
  induction parts with
  | nil => cases h
  | cons first rest ih =>
    by_cases hne : rest = []
    · subst hne
      obtain rfl := List.mem_singleton.mp h
      have hsame : sep.intercalate [part] = part := List.intercalate_singleton
      exact hsame.symm ▸ List.infix_rfl
    · rw [List.intercalate_cons_of_ne_nil hne]
      rcases List.mem_cons.mp h with rfl | h
      · rw [List.append_assoc]
        exact (List.prefix_append part _).isInfix
      · exact (ih h).trans (List.suffix_append _ _).isInfix

theorem infix_of_mem_pieces {sep : Char} {cs piece : List Char} (h : piece ∈ pieces sep cs) :
    piece <:+: cs := by
  have hjoined : [sep].intercalate (cs.splitOn sep) = cs := List.intercalate_splitOn sep
  rw [pieces_eq_splitOn] at h
  exact hjoined ▸ infix_intercalate_of_mem h

theorem mem_of_mem_capped {α : Type} {n : Int} {xs : List α} {x : α} (h : x ∈ capped n xs) :
    x ∈ xs := by
  unfold capped at h
  split at h
  · exact List.mem_of_mem_take h
  · exact List.mem_of_mem_take h

theorem capped_ne_nil {α : Type} {n : Int} {xs : List α} (hn : 1 ≤ n) (hxs : xs ≠ []) :
    capped n xs ≠ [] := by
  have hlength : 0 < xs.length := List.length_pos_iff.mpr hxs
  rw [capped, if_neg (by omega), ← List.length_pos_iff, List.length_take]
  omega

end ChartBoard.Text
