import ChartBoard.Assistant.Display
import ChartBoard.Proofs.Text.Blank
import ChartBoard.Proofs.Text.Replaced
import ChartBoard.Proofs.Text.Search

/-!
# Answers for the eye

What is shown of an answer is a few lines that are not blank, of not many characters, and without
marks of emphasis; shortening it again changes nothing.

* `IsLine` says what a line of a shortened text is, `firstLines_joinedLines` that such lines are
  found again in the text that they make up.
* `cut` is the cut of a long text, and `exists_lines_cut` says that lines that are cut are lines.
* `isChain_cleanChars` says that cleaning leaves no two stars in a row.
* `compact_clean` puts them together.
-/

namespace ChartBoard.Assistant

open Text

/-! ## Lines -/

/-- True of a line of a shortened text: one that is trimmed and not empty. -/
structure IsLine (l : List Char) : Prop where
  ne_nil : l ≠ []
  trimmed : trimChars l = l
  noFeed : '\n' ∉ l

/-- The lines of a text; the empty text has none. -/
def shownLines (cs : List Char) : List (List Char) := if cs = [] then [] else pieces '\n' cs

variable {l cs : List Char} {ls : List (List Char)} {maxLines maxChars : Int}

theorem IsLine.exists_not_blank (h : IsLine l) : ∃ c ∈ l, isBlank c = false := by
  by_contra hnone
  have hblank : ∀ c ∈ l, isBlank c = true := fun c hc => by
    by_contra hc'
    exact hnone ⟨c, hc, by simpa using hc'⟩
  exact h.ne_nil (h.trimmed ▸ trimChars_eq_nil_iff.mpr hblank)

theorem joinedLines_cons (hne : ls ≠ []) :
    joinedLines (l :: ls) = l ++ (['\n'] ++ joinedLines ls) := by
  rw [joinedLines, List.intercalate_cons_of_ne_nil hne, List.append_assoc]
  rfl

theorem joinedLines_singleton (l : List Char) : joinedLines [l] = l := List.intercalate_singleton

theorem joinedLines_eq_nil_iff (h : ∀ l ∈ ls, IsLine l) : joinedLines ls = [] ↔ ls = [] := by
  constructor
  · intro hnil
    cases ls with
    | nil => rfl
    | cons l ls =>
      have hl := (h l List.mem_cons_self).ne_nil
      by_cases hne : ls = []
      · rw [hne, joinedLines_singleton] at hnil
        exact absurd hnil hl
      · rw [joinedLines_cons hne] at hnil
        exact absurd (List.append_eq_nil_iff.mp hnil).1 hl
  · rintro rfl
    rfl

/-- The lines of a text that is made up of lines are these. -/
theorem shownLines_joinedLines (h : ∀ l ∈ ls, IsLine l) : shownLines (joinedLines ls) = ls := by
  by_cases hne : ls = []
  · rw [hne]
    rfl
  · rw [shownLines, if_neg (mt (joinedLines_eq_nil_iff h).mp hne), pieces_eq_splitOn]
    exact List.splitOn_intercalate '\n' (fun l hl => (h l hl).noFeed) hne

theorem isLine_of_mem_firstLines (h : l ∈ firstLines maxLines cs) : IsLine l := by
  have hkept := List.mem_filter.mp (mem_of_mem_capped h)
  obtain ⟨piece, hpiece, rfl⟩ := List.mem_map.mp hkept.1
  exact ⟨by simpa using hkept.2, trimChars_trimChars piece,
    fun hmem => not_mem_of_mem_pieces hpiece (mem_of_mem_trimChars hmem)⟩

theorem length_firstLines_le (h : 0 ≤ maxLines) (cs : List Char) :
    ((firstLines maxLines cs).length : Int) ≤ maxLines := by
  rw [firstLines, capped, if_neg (by omega), List.length_take]
  omega

/-- The first lines of a text that is made up of few lines are all of them. -/
theorem firstLines_joinedLines (h : ∀ l ∈ ls, IsLine l) (hfew : (ls.length : Int) ≤ maxLines) :
    firstLines maxLines (joinedLines ls) = ls := by
  have hall : ((pieces '\n' (joinedLines ls)).map trimChars).filter (!·.isEmpty) = ls := by
    by_cases hne : ls = []
    · rw [hne]
      rfl
    · rw [pieces_eq_splitOn, joinedLines,
        List.splitOn_intercalate '\n' (fun l hl => (h l hl).noFeed) hne,
        List.map_congr_left fun l hl => (h l hl).trimmed, List.map_id', List.filter_eq_self]
      exact fun l hl => by simpa using (h l hl).ne_nil
  rw [firstLines, hall, capped, if_neg (by omega), List.take_of_length_le (by omega)]

/-! ## The cut -/

/-- What a text that is cut ends in. -/
def points : List Char := "...".toList

/-- A text that is cut, once it is too long. -/
def cut (maxChars : Int) (cs : List Char) : List Char :=
  if maxChars < cs.length then cs.take (maxChars - 1).toNat ++ points else cs

theorem toList_compact (h : 1 ≤ maxChars) (s : String) : (compact maxLines maxChars s).toList =
    cut maxChars (joinedLines (firstLines maxLines s.toList)) := by
  rw [compact, cut]
  split
  · rw [String.toList_append, String.toList_ofList, capped, if_neg (by omega)]
    rfl
  · rw [String.toList_ofList]

theorem length_cut_le (h : 1 ≤ maxChars) (cs : List Char) :
    ((cut maxChars cs).length : Int) ≤ maxChars + 2 := by
  have hpoints : points.length = 3 := rfl
  rw [cut]
  split
  · rw [List.length_append, List.length_take, hpoints]
    omega
  · omega

/-- A text that was cut is cut in the same place again. -/
theorem cut_cut (h : 1 ≤ maxChars) (cs : List Char) :
    cut maxChars (cut maxChars cs) = cut maxChars cs := by
  by_cases hlong : maxChars < cs.length
  · have hkept : (cs.take (maxChars - 1).toNat).length = (maxChars - 1).toNat := by
      rw [List.length_take]
      omega
    have hagain : maxChars < (cs.take (maxChars - 1).toNat ++ points).length := by
      have hpoints : points.length = 3 := rfl
      rw [List.length_append, hkept, hpoints]
      omega
    simp only [cut, if_pos hlong]
    rw [if_pos hagain, List.take_left' hkept]
  · simp only [cut, if_neg hlong]

theorem isLine_take (h : IsLine l) (k : Nat) : IsLine (l.take k ++ points) := by
  have hpoints : points = ['.', '.'] ++ '.' :: [] := by decide
  refine ⟨by simp [hpoints], ?_, ?_⟩
  · have hstart : trimStart (l.take k ++ points) = l.take k ++ points := by
      have hfirst : l.dropWhile isBlank = l := h.trimmed ▸ dropWhile_trimChars l
      cases hk : l.take k with
      | nil => decide
      | cons c rest =>
        have hc : isBlank c = false := by
          obtain ⟨more, hmore⟩ := hk ▸ List.take_prefix k l
          rw [← hmore, List.cons_append, List.dropWhile_eq_self_iff] at hfirst
          simpa using hfirst
        rw [List.cons_append, trimStart, List.dropWhile_cons_of_neg (by simp [hc])]
    rw [trimChars, hstart, hpoints, ← List.append_assoc, trimEnd_append_cons _ (by decide)]
    rfl
  · rw [List.mem_append, not_or]
    exact ⟨fun hmem => h.noFeed (List.mem_of_mem_take hmem), by decide⟩

/-- Lines that are cut are lines, and not more than before. -/
theorem exists_lines_take (h : ∀ l ∈ ls, IsLine l) {k : Nat} (hk : k < (joinedLines ls).length) :
    ∃ ls', (joinedLines ls).take k ++ points = joinedLines ls' ∧ (∀ l ∈ ls', IsLine l) ∧
      ls' ≠ [] ∧ ls'.length ≤ ls.length := by
  induction ls generalizing k with
  | nil => cases hk
  | cons l ls ih =>
    have hl : IsLine l := h l List.mem_cons_self
    by_cases hhere : k ≤ l.length
    · have hcut : (joinedLines (l :: ls)).take k = l.take k := by
        by_cases hne : ls = []
        · rw [hne, joinedLines_singleton]
        · rw [joinedLines_cons hne, List.take_append_of_le_length hhere]
      refine ⟨[l.take k ++ points], ?_, ?_, List.cons_ne_nil _ _, by simp⟩
      · rw [hcut, joinedLines_singleton]
      · simpa using isLine_take hl k
    · have hne : ls ≠ [] := by
        rintro rfl
        rw [joinedLines_singleton] at hk
        omega
      obtain ⟨m, rfl⟩ : ∃ m, k = l.length + (m + 1) := ⟨k - l.length - 1, by omega⟩
      rw [joinedLines_cons hne] at hk ⊢
      simp only [List.length_append, List.length_singleton] at hk
      obtain ⟨ls', hjoined, hlines, hne', hlength⟩ :=
        ih (fun l hl => h l (List.mem_cons_of_mem _ hl)) (k := m) (by omega)
      refine ⟨l :: ls', ?_, ?_, List.cons_ne_nil _ _, by simpa using hlength⟩
      · rw [joinedLines_cons hne', ← hjoined, List.take_length_add_append]
        simp
      · exact List.forall_mem_cons.mpr ⟨hl, hlines⟩

theorem exists_lines_cut (hmax : 1 ≤ maxChars) (h : ∀ l ∈ ls, IsLine l) :
    ∃ ls', cut maxChars (joinedLines ls) = joinedLines ls' ∧ (∀ l ∈ ls', IsLine l) ∧
      ls'.length ≤ ls.length := by
  by_cases hlong : maxChars < (joinedLines ls).length
  · obtain ⟨ls', hjoined, hlines, -, hlength⟩ :=
      exists_lines_take h (k := (maxChars - 1).toNat) (by omega)
    exact ⟨ls', by rw [cut, if_pos hlong, hjoined], hlines, hlength⟩
  · exact ⟨ls, by rw [cut, if_neg hlong], h, le_rfl⟩

/-- A shortened text is made up of few lines. -/
theorem exists_lines_compact (hlines : 0 ≤ maxLines) (hchars : 1 ≤ maxChars) (s : String) :
    ∃ ls, (compact maxLines maxChars s).toList = joinedLines ls ∧ (∀ l ∈ ls, IsLine l) ∧
      (ls.length : Int) ≤ maxLines := by
  obtain ⟨ls, hjoined, hls, hlength⟩ := exists_lines_cut hchars
    fun l (hl : l ∈ firstLines maxLines s.toList) => isLine_of_mem_firstLines hl
  have hfew := length_firstLines_le hlines s.toList
  exact ⟨ls, (toList_compact hchars s).trans hjoined, hls, by omega⟩

theorem compact_compact (hlines : 0 ≤ maxLines) (hchars : 1 ≤ maxChars) (s : String) :
    compact maxLines maxChars (compact maxLines maxChars s) = compact maxLines maxChars s := by
  obtain ⟨ls, hjoined, hls, hfew⟩ := exists_lines_compact hlines hchars s
  apply String.toList_inj.mp
  rw [toList_compact hchars, hjoined, firstLines_joinedLines hls hfew, ← hjoined,
    toList_compact hchars, cut_cut hchars]

/-! ## Stars -/

theorem apart_feed (c : Char) : Apart '*' '\n' c := fun h => absurd h (by decide)

theorem apart_to_feed (c : Char) : Apart '*' c '\n' := fun _ => by decide

theorem isChain_cleanChars (cs : List Char) : (cleanChars cs).IsChain (Apart '*') := by
  have hpairs := isChain_replaced_pair (w := '*') (by decide) (replaced (spanSize fence fence) []
    (replaced (spanSize (openingTag "chart") (closingTag "chart")) []
      (replaced (spanSize (openingTag "sql") (closingTag "sql")) [] cs)))
  have hheadings : (replaced headingSize [] _).IsChain (Apart '*') :=
    isChain_replaced apart_feed apart_to_feed (by simp)
      (fun h => .inr (startsLine_of_headingSize h)) hpairs
  have hruns : (replaced (runSize '\n' 3) ['\n', '\n'] _).IsChain (Apart '*') :=
    isChain_replaced apart_feed apart_to_feed (by simp) (fun _ => .inl (by simp)) hheadings
  exact hruns.infix (isInfix_trimChars _)

theorem isChain_joinedLines (h : ∀ l ∈ ls, l.IsChain (Apart '*')) :
    (joinedLines ls).IsChain (Apart '*') := by
  induction ls with
  | nil => exact .nil
  | cons l ls ih =>
    obtain ⟨hl, hls⟩ := List.forall_mem_cons.mp h
    by_cases hne : ls = []
    · rw [hne, joinedLines_singleton]
      exact hl
    · rw [joinedLines_cons hne]
      exact isChain_append_feeds apart_feed apart_to_feed (by simp) (by simp) hl (ih hls)

theorem isChain_cut (h : cs.IsChain (Apart '*')) : (cut maxChars cs).IsChain (Apart '*') := by
  have hpoints : ∀ c ∈ points, c ≠ '*' := forall_mem_of_all (by decide)
  rw [cut]
  split
  · refine (h.take _).append ?_ fun _ _ d hd _ => hpoints d (List.mem_of_mem_head? hd)
    exact (List.pairwise_of_forall_mem_list fun _ _ d hd _ => hpoints d hd :
      points.Pairwise (Apart '*')).isChain
  · exact h

/-- Shortening brings no two stars together. -/
theorem isChain_compact (hchars : 1 ≤ maxChars) {s : String} (h : s.toList.IsChain (Apart '*')) :
    (compact maxLines maxChars s).toList.IsChain (Apart '*') := by
  rw [toList_compact hchars]
  refine isChain_cut (isChain_joinedLines fun l hl => ?_)
  obtain ⟨piece, hpiece, rfl⟩ :=
    List.mem_map.mp (List.mem_filter.mp (mem_of_mem_capped hl)).1
  exact h.infix ((isInfix_trimChars piece).trans (infix_of_mem_pieces hpiece))

/-! ## Main result -/

/-- True of a text that can be shown: of few lines, none of them blank, of not many characters more
than were asked for, and without marks of emphasis. -/
structure IsBrief (maxLines maxChars : Int) (s : String) : Prop where
  few : ((shownLines s.toList).length : Int) ≤ maxLines
  notBlank : ∀ l ∈ shownLines s.toList, ∃ c ∈ l, isBlank c = false
  short : (s.length : Int) ≤ maxChars + 2
  noEmphasis : ¬ ['*', '*'] <:+: s.toList

/-- What is shown of an answer is brief, and shortening any text once more changes nothing. -/
theorem compact_clean (hlines : 0 ≤ maxLines) (hchars : 1 ≤ maxChars) :
    (∀ answer : String, IsBrief maxLines maxChars (compact maxLines maxChars (clean answer))) ∧
    ∀ s : String, compact maxLines maxChars (compact maxLines maxChars s) =
      compact maxLines maxChars s := by
  refine ⟨fun answer => ?_, compact_compact hlines hchars⟩
  obtain ⟨ls, hjoined, hls, hfew⟩ := exists_lines_compact hlines hchars (clean answer)
  have hshown : shownLines (compact maxLines maxChars (clean answer)).toList = ls := by
    rw [hjoined, shownLines_joinedLines hls]
  have hclean : (clean answer).toList.IsChain (Apart '*') := by
    rw [clean, String.toList_ofList]
    exact isChain_cleanChars _
  exact {
    few := hshown ▸ hfew
    notBlank := hshown ▸ fun l hl => (hls l hl).exists_not_blank
    short := by
      rw [← String.length_toList, toList_compact hchars]
      exact length_cut_le hchars _
    noEmphasis := isChain_apart_iff.mp (isChain_compact hchars hclean) }

theorem compact_clean_behind_space :
    compact 2 7 (clean "## **Sales** rose\n\nand *fell*") = "Sales ..." ∧
    IsBrief 2 7 (compact 2 7 (clean "## **Sales** rose\n\nand *fell*")) ∧
    compact 2 7 (compact 2 7 "Sales rose\n\nand fell") = compact 2 7 "Sales rose\n\nand fell" :=
  ⟨by decide, (compact_clean (by decide) (by decide)).1 _,
    (compact_clean (by decide) (by decide)).2 _⟩

end ChartBoard.Assistant
