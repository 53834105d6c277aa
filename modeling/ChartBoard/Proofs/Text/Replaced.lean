import ChartBoard.Text.Replaced
import Mathlib.Data.List.Chain

/-!
# Neighbours in texts with replaced matches

* `Apart` says that two neighbours are not both a given character, `isChain_apart_iff` that a text
  then has no two of them in a row.
* `isChain_replaced_pair` says that none are left where pairs are left out.
* `isChain_replaced` says that no two characters come together where matches are left out at the
  starts of lines alone, or are replaced by line feeds.
-/

namespace ChartBoard.Text

/-- True of two neighbours that are not both the given character. -/
def Apart (w a b : Char) : Prop := a = w → b ≠ w

theorem isChain_apart_iff {w : Char} {cs : List Char} :
    cs.IsChain (Apart w) ↔ ¬ [w, w] <:+: cs := by
  rw [List.isChain_iff_forall_rel_of_append_cons_cons]
  constructor
  · rintro h ⟨before, after, hsplit⟩
    have hpair : cs = before ++ w :: w :: after := by rw [← hsplit, List.append_assoc]; rfl
    exact h hpair rfl rfl
  · rintro h a b before after rfl rfl rfl
    exact h ⟨before, after, by simp⟩

/-! ## Pairs that are left out -/

section

variable {w : Char} (hw : w.isAlpha = false)
include hw

theorem wordSize_pair_eq_none {before : Option Char} {c : Char} {cs : List Char} :
    wordSize [w, w] before (c :: cs) = none ↔ (c = w → cs.head? ≠ some w) := by
  have hsame (d : Char) : sameFolded w d = true ↔ d = w := by
    rw [sameFolded, if_neg (by simp [hw]), beq_iff_eq, eq_comm]
  rw [wordSize, Option.map_eq_none_iff, startsWithFolded?]
  split
  · rename_i hc
    cases cs with
    | nil => exact iff_of_true rfl fun _ => nofun
    | cons d cs =>
      rw [startsWithFolded?, List.head?_cons, Ne, Option.some_inj]
      split
      · rename_i hd
        exact iff_of_false nofun fun h => h ((hsame c).mp hc) ((hsame d).mp hd)
      · rename_i hd
        exact iff_of_true rfl fun _ heq => hd ((hsame d).mpr heq)
  · rename_i hc
    exact iff_of_true rfl fun heq => absurd ((hsame c).mpr heq) hc

theorem head?_replacedFrom_pair {before : Option Char} {cs : List Char} (h : cs.head? ≠ some w) :
    (replacedFrom (wordSize [w, w]) [] 0 before cs).head? ≠ some w := by
  cases cs with
  | nil => simp [replacedFrom]
  | cons c cs =>
    have hc : c ≠ w := by simpa using h
    rw [replacedFrom, (wordSize_pair_eq_none hw).mpr fun heq => absurd heq hc]
    simpa using hc

theorem isChain_replacedFrom_pair (skip : Nat) (before : Option Char) (cs : List Char) :
    (replacedFrom (wordSize [w, w]) [] skip before cs).IsChain (Apart w) := by
  induction cs generalizing skip before with
  | nil => cases skip <;> exact .nil
  | cons c cs ih =>
    cases skip with
    | succ skip => exact ih skip (some c)
    | zero =>
      rw [replacedFrom]
      split
      · exact ih _ (some c)
      · rename_i hsize
        have hnone : wordSize [w, w] before (c :: cs) = none := by
          cases hfound : wordSize [w, w] before (c :: cs) with
          | none => rfl
          | some n =>
            obtain ⟨rest, -, rfl⟩ := Option.map_eq_some_iff.mp hfound
            exact absurd hfound (hsize 1)
        refine List.isChain_cons.mpr ⟨fun d hd hc heq => ?_, ih 0 (some c)⟩
        exact head?_replacedFrom_pair hw ((wordSize_pair_eq_none hw).mp hnone hc) (heq ▸ hd)

/-- Once the pairs of a character are left out, no two of it stand in a row. -/
theorem isChain_replaced_pair (cs : List Char) :
    (replaced (wordSize [w, w]) [] cs).IsChain (Apart w) :=
  isChain_replacedFrom_pair hw 0 none cs

end

/-! ## Matches at the starts of lines and line feeds -/

/-- True of the character, if any, before the start of a line. -/
def StartsLine (before : Option Char) : Prop := before = none ∨ before = some '\n'

section

variable {R : Char → Char → Prop} (hfrom : ∀ c, R '\n' c) (hto : ∀ c, R c '\n')
  {size? : MatchSize} {new : List Char} (hnew : ∀ c ∈ new, c = '\n')
include hfrom

theorem isChain_of_startsLine {last : Option Char} (h : StartsLine last) {cs : List Char}
    (hcs : cs.IsChain R) : (last.toList ++ cs).IsChain R := by
  rcases h with rfl | rfl
  · exact hcs
  · exact List.isChain_cons.mpr ⟨fun c _ => hfrom c, hcs⟩

include hto hnew

/-- Line feeds stand between whatever they stand between. -/
theorem isChain_append_feeds (hne : new ≠ []) {before after : List Char}
    (hbefore : before.IsChain R) (hafter : after.IsChain R) :
    (before ++ (new ++ after)).IsChain R := by
  have hfeeds : new.IsChain R := List.Pairwise.isChain <|
    List.pairwise_of_forall_mem_list fun c hc d _ => hnew c hc ▸ hfrom d
  have hlast : ∀ c ∈ new.getLast?, ∀ d ∈ after.head?, R c d := fun c hc d _ =>
    hnew c (List.mem_of_getLast? hc) ▸ hfrom d
  refine hbefore.append (hfeeds.append hafter hlast) fun c _ d hd => ?_
  rw [List.head?_append_of_ne_nil _ hne] at hd
  exact hnew d (List.mem_of_head? hd) ▸ hto c

theorem isChain_replacedFrom
    (hsize : ∀ {before cs n}, size? before cs = some (n + 1) → new ≠ [] ∨ StartsLine before)
    {skip : Nat} {before last : Option Char} {cs : List Char}
    (hlast : StartsLine last ∨ skip = 0 ∧ last = before) (hcs : (before.toList ++ cs).IsChain R) :
    (last.toList ++ replacedFrom size? new skip before cs).IsChain R := by
  induction cs generalizing skip before last with
  | nil => cases last <;> cases skip <;> simp [replacedFrom]
  | cons c cs ih =>
    have hrest : ((some c).toList ++ cs).IsChain R := hcs.right_of_append
    cases skip with
    | succ skip => exact ih (.inl (hlast.resolve_right (by simp))) hrest
    | zero =>
      rw [replacedFrom]
      split
      · rename_i n hmatch
        by_cases hne : new = []
        · have hstart : StartsLine last := hlast.elim id fun h =>
            h.2 ▸ (hsize hmatch).resolve_left (not_not.mpr hne)
          rw [hne, List.nil_append, ← hne]
          exact ih (.inl hstart) hrest
        · have hbehind : StartsLine none := .inl rfl
          exact isChain_append_feeds hfrom hto hnew hne (by cases last <;> simp)
            (ih (.inl hbehind) hrest)
      · have hkept : ((some c).toList ++ replacedFrom size? new 0 (some c) cs).IsChain R :=
          ih (.inr ⟨rfl, rfl⟩) hrest
        rcases hlast with hstart | ⟨-, rfl⟩
        · exact isChain_of_startsLine hfrom hstart hkept
        · cases last with
          | none => exact hkept
          | some b =>
            have hnext : R b c := hcs.rel_head? (by simp)
            exact List.isChain_cons_cons.mpr ⟨hnext, hkept⟩

/-- No two characters come together where matches are left out at the starts of lines alone or are
replaced by line feeds. -/
theorem isChain_replaced
    (hsize : ∀ {before cs n}, size? before cs = some (n + 1) → new ≠ [] ∨ StartsLine before)
    {cs : List Char} (hcs : cs.IsChain R) : (replaced size? new cs).IsChain R := by
  have hstart : StartsLine none := .inl rfl
  exact isChain_replacedFrom hfrom hto hnew hsize (.inl hstart) hcs

end

/-- The mark of a heading stands at the start of a line. -/
theorem startsLine_of_headingSize {before : Option Char} {cs : List Char} {n : Nat}
    (h : headingSize before cs = some n) : StartsLine before := by
  rw [headingSize] at h
  split at h
  · rename_i hmark
    simp only [Bool.and_eq_true, Bool.or_eq_true, beq_iff_eq] at hmark
    exact hmark.1.1.1
  · cases h

end ChartBoard.Text
