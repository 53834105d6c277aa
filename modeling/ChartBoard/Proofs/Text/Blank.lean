import ChartBoard.Text.Blank
import Mathlib.Data.List.DropRight

/-!
# Trimmed texts

* `trimChars_trimChars` says that trimming a second time changes nothing, `trimChars_of_forall` that
  a text without blanks is left as it is.
* `trimChars_append_cons` says what is trimmed of a text that starts with another one,
  `trimChars_append_of_blank` that blanks around a text do not matter.
-/

namespace ChartBoard.Text

/-- A property of listed characters, looked at one by one. -/
theorem forall_mem_of_all {p : Char → Prop} [DecidablePred p] {cs : List Char}
    (h : (cs.all fun c => decide (p c)) = true) : ∀ c ∈ cs, p c := fun c hc =>
  of_decide_eq_true (List.all_eq_true.mp h c hc)

theorem trimChars_eq (cs : List Char) :
    trimChars cs = (cs.dropWhile isBlank).rdropWhile isBlank := rfl

theorem dropWhile_trimChars (cs : List Char) :
    (trimChars cs).dropWhile isBlank = trimChars cs := by
  rw [trimChars_eq, List.dropWhile_eq_self_iff]
  intro hlength
  have hkept := List.rdropWhile_prefix isBlank (l := cs.dropWhile isBlank)
  have hfirst := List.dropWhile_eq_self_iff.mp (List.dropWhile_idempotent isBlank (l := cs))
  rw [List.IsPrefix.getElem hkept hlength]
  exact hfirst (hlength.trans_le hkept.length_le)

theorem trimChars_trimChars (cs : List Char) : trimChars (trimChars cs) = trimChars cs := by
  rw [trimChars_eq (trimChars cs), dropWhile_trimChars, trimChars_eq,
    List.rdropWhile_idempotent]

theorem dropWhile_of_forall {p : Char → Bool} {cs : List Char} (h : ∀ c ∈ cs, p c = false) :
    cs.dropWhile p = cs :=
  List.dropWhile_eq_self_iff.mpr fun hlength => by simp [h]

theorem dropEndWhile_of_forall {p : Char → Bool} {cs : List Char} (h : ∀ c ∈ cs, p c = false) :
    dropEndWhile p cs = cs := by
  rw [dropEndWhile, dropWhile_of_forall fun c hc => h c (List.mem_reverse.mp hc),
    List.reverse_reverse]

theorem trimChars_of_forall {cs : List Char} (h : ∀ c ∈ cs, isBlank c = false) :
    trimChars cs = cs := by
  rw [trimChars, trimStart, dropWhile_of_forall h, trimEnd, dropEndWhile_of_forall h]

theorem trimChars_eq_nil_iff {cs : List Char} :
    trimChars cs = [] ↔ ∀ c ∈ cs, isBlank c = true := by
  rw [trimChars_eq, List.rdropWhile_eq_nil_iff]
  constructor
  · intro h
    have hdropped : cs.dropWhile isBlank = [] := by
      by_contra hne
      have hhead := List.head_dropWhile_not isBlank hne
      rw [h _ (List.head_mem hne)] at hhead
      cases hhead
    exact List.dropWhile_eq_nil_iff.mp hdropped
  · intro h c hc
    exact h c ((List.dropWhile_suffix isBlank).subset hc)

theorem isInfix_trimChars (cs : List Char) : trimChars cs <:+: cs :=
  (List.rdropWhile_prefix isBlank _).isInfix.trans (List.dropWhile_suffix isBlank).isInfix

theorem mem_of_mem_trimChars {c : Char} {cs : List Char} (h : c ∈ trimChars cs) : c ∈ cs :=
  (isInfix_trimChars cs).subset h

theorem trimEnd_append_cons (before : List Char) {c : Char} (hc : isBlank c = false)
    (after : List Char) : trimEnd (before ++ c :: after) = before ++ c :: trimEnd after := by
  change (before ++ c :: after).rdropWhile isBlank = before ++ c :: after.rdropWhile isBlank
  induction after using List.reverseRecOn with
  | nil => rw [List.rdropWhile_concat_neg isBlank before c (by simp [hc]), List.rdropWhile_nil]
  | append_singleton after last ih =>
    have hlast : before ++ c :: (after ++ [last]) = (before ++ c :: after) ++ [last] := by simp
    rw [hlast, List.rdropWhile_concat, List.rdropWhile_concat]
    split
    · exact ih
    · exact hlast.symm

/-- A trimmed text and a letter keep blanks off the start of what follows them. -/
theorem trimChars_append_cons {before : List Char} (hne : before ≠ [])
    (htrimmed : trimChars before = before) {c : Char} (hc : isBlank c = false)
    (after : List Char) : trimChars (before ++ c :: after) = before ++ c :: trimEnd after := by
  have hstart : before.dropWhile isBlank = before := htrimmed ▸ dropWhile_trimChars before
  have hkept : trimStart (before ++ c :: after) = before ++ c :: after := by
    rw [trimStart, List.dropWhile_append, hstart, if_neg (by simpa using hne)]
  rw [trimChars, hkept, trimEnd_append_cons before hc]

theorem trimStart_append_of_blank {blanks : List Char} (h : ∀ c ∈ blanks, isBlank c = true)
    (cs : List Char) : trimStart (blanks ++ cs) = trimStart cs :=
  List.dropWhile_append_of_pos h

theorem trimEnd_append_of_blank {blanks : List Char} (h : ∀ c ∈ blanks, isBlank c = true)
    (cs : List Char) : trimEnd (cs ++ blanks) = trimEnd cs := by
  have hback : ∀ c ∈ blanks.reverse, isBlank c = true := fun c hc => h c (List.mem_reverse.mp hc)
  rw [trimEnd, dropEndWhile, List.reverse_append, List.dropWhile_append_of_pos hback]
  rfl

/-- Blanks around a text are trimmed with its own. -/
theorem trimChars_append_of_blank {before after : List Char}
    (hbefore : ∀ c ∈ before, isBlank c = true) (hafter : ∀ c ∈ after, isBlank c = true)
    (cs : List Char) : trimChars (before ++ (cs ++ after)) = trimChars cs := by
  rw [trimChars, trimStart_append_of_blank hbefore, trimChars, trimStart, List.dropWhile_append]
  split
  · rename_i hempty
    rw [List.dropWhile_eq_nil_iff.mpr hafter, trimStart, List.isEmpty_iff.mp hempty]
  · exact trimEnd_append_of_blank hafter _

theorem toList_trim (s : String) : (trim s).toList = trimChars s.toList := String.toList_ofList

theorem trim_trim (s : String) : trim (trim s) = trim s := by
  rw [trim, toList_trim, trimChars_trimChars, trim]

end ChartBoard.Text
