import ChartBoard.Text.Lines
import Mathlib.Data.List.Basic

/-!
# Texts that are written as lines

* `Lined` says that a text is written as some lines, with an end of any kind after each.
* `filterMap_linesFrom` says that reading the text by lines finds in it what these lines hold.  A
  carriage return and a line feed that happen to meet are one end, so that empty lines may be lost.
-/

namespace ChartBoard.Text

/-- True of what ends a line: a separator, or a carriage return with its line feed. -/
inductive IsLineEnd : List Char → Prop
  | one {c : Char} (h : endsLine c = true) : IsLineEnd [c]
  | pair : IsLineEnd ['\r', '\n']

/-- True of a text that is written as lines, with an end after each of them but perhaps the last. -/
inductive Lined : List (List Char) → List Char → Prop
  | nil : Lined [] []
  | last (line : List Char) : Lined [line] line
  | cons (line : List Char) {stop rest : List Char} {lines : List (List Char)}
      (hstop : IsLineEnd stop) (hrest : Lined lines rest) :
      Lined (line :: lines) (line ++ (stop ++ rest))

/-- A character is read by itself, unless it is a carriage return before its line feed. -/
theorem linesFrom_cons {c : Char} {rest : List Char}
    (h : ¬(c = '\r' ∧ ∃ after, rest = '\n' :: after)) (line : List Char) :
    linesFrom line (c :: rest) =
      if endsLine c then line.reverse :: linesFrom [] rest else linesFrom (c :: line) rest := by
  rw [linesFrom]
  rintro after rfl rfl
  exact h ⟨rfl, after, rfl⟩

theorem linesFrom_append {cs : List Char} (h : ∀ c ∈ cs, endsLine c = false)
    (line rest : List Char) : linesFrom line (cs ++ rest) = linesFrom (cs.reverse ++ line) rest := by
  induction cs generalizing line with
  | nil => rfl
  | cons c cs ih =>
    have hc := h c List.mem_cons_self
    have hreturn : c ≠ '\r' := by
      rintro rfl
      cases hc
    rw [List.cons_append, linesFrom_cons fun hpair => hreturn hpair.1, hc]
    simp only [Bool.false_eq_true, if_false]
    rw [ih fun d hd => h d (List.mem_cons_of_mem c hd)]
    simp

section

variable {α : Type} {f : List Char → Option α}

theorem filterMap_linesFrom_end (hf : f [] = none) {stop : List Char} (hstop : IsLineEnd stop)
    (line rest : List Char) : (linesFrom line (stop ++ rest)).filterMap f =
      (f line.reverse).toList ++ (linesFrom [] rest).filterMap f := by
  have hcons (first : List Char) (others : List (List Char)) : (first :: others).filterMap f =
      (f first).toList ++ others.filterMap f := by
    rw [List.filterMap_cons]
    cases f first <;> rfl
  cases hstop with
  | pair => rw [← hcons]; rfl
  | one hc =>
    rename_i c
    by_cases hpair : c = '\r' ∧ ∃ after, rest = '\n' :: after
    · -- the line feed ends no line of its own
      obtain ⟨rfl, after, rfl⟩ := hpair
      have hfeed : (linesFrom [] ('\n' :: after)).filterMap f =
          (linesFrom [] after).filterMap f := by
        have hempty : linesFrom [] ('\n' :: after) = [] :: linesFrom [] after := rfl
        rw [hempty, hcons, hf]
        rfl
      rw [hfeed, ← hcons]
      rfl
    · have hplain : linesFrom line ([c] ++ rest) = line.reverse :: linesFrom [] rest := by
        rw [List.singleton_append, linesFrom_cons hpair, if_pos hc]
      rw [hplain, hcons]

/-- What is read off the lines of a text is read off the lines that it was written as, if there is
nothing to read off an empty line. -/
theorem filterMap_linesFrom (hf : f [] = none) {lines : List (List Char)} {text : List Char}
    (h : Lined lines text) (hlines : ∀ line ∈ lines, ∀ c ∈ line, endsLine c = false) :
    (linesFrom [] text).filterMap f = lines.filterMap f := by
  induction h with
  | nil => rfl
  | last line =>
    have hline := hlines line List.mem_cons_self
    have hall := linesFrom_append hline [] []
    rw [List.append_nil, List.append_nil] at hall
    rw [hall, linesFrom]
    split
    · rename_i hempty
      obtain rfl : line = [] := by simpa using hempty
      simp [hf]
    · rw [List.reverse_reverse]
  | cons line hstop _ ih =>
    have hline := hlines line List.mem_cons_self
    rw [linesFrom_append hline, filterMap_linesFrom_end hf hstop,
      ih fun other hother => hlines other (List.mem_cons_of_mem line hother), List.append_nil,
      List.reverse_reverse, List.filterMap_cons]
    cases f line <;> rfl

end

end ChartBoard.Text
