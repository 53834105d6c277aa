import ChartBoard.Text.Folded
import Mathlib.Data.List.Basic
import Mathlib.Data.List.Forall2

/-!
# Words in letters of any case

* `Spells` says that a text is a word in letters of any case, `OccursFolded` that a text has such a
  word in it.
* `splitFolded?_eq_none_iff` says when a text is not cut at a word, `splitFolded?_append` where it
  is cut: at the first occurrence, if no two of them can overlap.
* `occursFolded_append_cons` says that a word does not reach across a character that is none of its
  letters.
-/

namespace ChartBoard.Text

/-- True of a text that is a word in letters of any case.  A long s, of which the capital is S, is
an s as well. -/
def Spells (word cs : List Char) : Prop := List.Forall₂ (fun w c => sameFolded w c = true) word cs

/-- True of a word that stands in a text in letters of any case. -/
def OccursFolded (word cs : List Char) : Prop :=
  ∃ before found after, cs = before ++ (found ++ after) ∧ Spells word found

variable {word cs before : List Char}

theorem exists_mem_of_forall₂ {α β : Type} {R : α → β → Prop} {as : List α} {bs : List β}
    (h : List.Forall₂ R as bs) {b : β} (hb : b ∈ bs) : ∃ a ∈ as, R a b := by
  induction h with
  | nil => cases hb
  | @cons a d as bs hd _ ih =>
    rcases List.mem_cons.mp hb with rfl | hb
    · exact ⟨a, List.mem_cons_self, hd⟩
    · obtain ⟨e, he, hrelated⟩ := ih hb
      exact ⟨e, List.mem_cons_of_mem a he, hrelated⟩

theorem Spells.exists_letter (h : Spells word cs) {c : Char} (hc : c ∈ cs) :
    ∃ w ∈ word, sameFolded w c = true := exists_mem_of_forall₂ h hc

theorem Spells.exists_character (h : Spells word cs) {w : Char} (hw : w ∈ word) :
    ∃ c ∈ cs, sameFolded w c = true :=
  exists_mem_of_forall₂ (R := flip fun w c => sameFolded w c = true) (List.Forall₂.flip h) hw

/-! ## Searching -/

theorem startsWithFolded?_eq_some_iff {rest : List Char} :
    startsWithFolded? word cs = some rest ↔ ∃ found, cs = found ++ rest ∧ Spells word found := by
  induction word generalizing cs with
  | nil =>
    rw [startsWithFolded?, Option.some_inj]
    constructor
    · rintro rfl
      exact ⟨[], rfl, .nil⟩
    · rintro ⟨found, rfl, hfound⟩
      cases hfound
      rfl
  | cons w word ih =>
    constructor
    · intro h
      cases cs with
      | nil => cases h
      | cons c cs =>
        rw [startsWithFolded?] at h
        split at h
        · rename_i hc
          obtain ⟨found, rfl, hfound⟩ := ih.mp h
          exact ⟨c :: found, rfl, .cons hc hfound⟩
        · cases h
    · rintro ⟨found, rfl, hfound⟩
      obtain ⟨c, found, hc, hrest, rfl⟩ := List.forall₂_cons_left_iff.mp hfound
      rw [List.cons_append, startsWithFolded?, if_pos hc]
      exact ih.mpr ⟨found, rfl, hrest⟩

theorem occursFolded_cons {c : Char} : OccursFolded word (c :: cs) ↔
    (∃ rest, startsWithFolded? word (c :: cs) = some rest) ∨ OccursFolded word cs := by
  simp only [startsWithFolded?_eq_some_iff]
  constructor
  · rintro ⟨before, found, after, hsplit, hfound⟩
    rcases List.cons_eq_append_iff.mp hsplit with ⟨rfl, heq⟩ | ⟨before, rfl, rfl⟩
    · exact .inl ⟨after, found, heq.symm, hfound⟩
    · exact .inr ⟨before, found, after, rfl, hfound⟩
  · rintro (⟨rest, found, heq, hfound⟩ | ⟨before, found, after, rfl, hfound⟩)
    · exact ⟨[], found, rest, heq, hfound⟩
    · exact ⟨c :: before, found, after, rfl, hfound⟩

theorem occursFolded_nil_iff : OccursFolded word [] ↔ word = [] := by
  constructor
  · rintro ⟨before, found, after, hsplit, hfound⟩
    obtain ⟨rfl, -⟩ := List.append_eq_nil_iff.mp (List.append_eq_nil_iff.mp hsplit.symm).2
    exact List.forall₂_nil_right_iff.mp hfound
  · rintro rfl
    exact ⟨[], [], [], rfl, .nil⟩

theorem splitFolded?_eq_none_iff : splitFolded? word cs = none ↔ ¬ OccursFolded word cs := by
  induction cs with
  | nil =>
    rw [splitFolded?, occursFolded_nil_iff, ← List.isEmpty_iff]
    split <;> simp_all
  | cons c cs ih =>
    rw [splitFolded?, occursFolded_cons]
    cases hstart : startsWithFolded? word (c :: cs) with
    | some rest => simp
    | none => simp [ih]

/-- A word does not occur in a text without one of its letters. -/
theorem not_occursFolded_of_letter {w : Char} (hw : w ∈ word)
    (h : ∀ c ∈ cs, sameFolded w c = false) : ¬ OccursFolded word cs := by
  rintro ⟨before, found, after, rfl, hfound⟩
  obtain ⟨c, hc, hsame⟩ := hfound.exists_character hw
  rw [h c (List.mem_append_right _ (List.mem_append_left _ hc))] at hsame
  cases hsame

/-- A word does not reach across a character that is none of its letters. -/
theorem occursFolded_append_cons {c : Char} (hne : word ≠ [])
    (h : ∀ w ∈ word, sameFolded w c = false) :
    OccursFolded word (before ++ c :: cs) ↔ OccursFolded word before ∨ OccursFolded word cs := by
  constructor
  · rintro ⟨left, found, right, hsplit, hfound⟩
    have hnone : c ∉ found := fun hc => by
      obtain ⟨w, hw, hsame⟩ := hfound.exists_letter hc
      rw [h w hw] at hsame
      cases hsame
    rcases List.append_eq_append_iff.mp hsplit with ⟨gap, -, hcs⟩ | ⟨gap, hbefore, hright⟩
    · rcases List.cons_eq_append_iff.mp hcs with ⟨-, hcs⟩ | ⟨gap, -, hcs⟩
      · -- the word would start with the character
        rcases List.append_eq_cons_iff.mp hcs with ⟨rfl, -⟩ | ⟨rest, rfl, -⟩
        · exact absurd (List.forall₂_nil_right_iff.mp hfound) hne
        · exact absurd List.mem_cons_self hnone
      · exact .inr ⟨gap, found, right, hcs, hfound⟩
    · rcases List.append_eq_append_iff.mp hright with ⟨rest, hgap, -⟩ | ⟨rest, hgap, hcs⟩
      · exact .inl ⟨left, found, rest, by rw [hbefore, hgap], hfound⟩
      · rcases List.cons_eq_append_iff.mp hcs with ⟨rfl, -⟩ | ⟨rest, rfl, -⟩
        · exact .inl ⟨left, found, [], by rw [hbefore, hgap]; simp, hfound⟩
        · exact absurd (by rw [hgap]; simp) hnone
  · rintro (⟨left, found, right, rfl, hfound⟩ | ⟨left, found, right, rfl, hfound⟩)
    · exact ⟨left, found, right ++ c :: cs, by simp, hfound⟩
    · exact ⟨before ++ c :: left, found, right, by simp, hfound⟩

/-- A text is cut at the first occurrence of a word if the first letter of the word does not come
again in it. -/
theorem splitFolded?_append {w f : Char} {ws fs : List Char} (hfound : Spells (w :: ws) (f :: fs))
    (honce : ∀ v ∈ ws, sameFolded v f = false) (hbefore : ¬ OccursFolded (w :: ws) before)
    (after : List Char) :
    splitFolded? (w :: ws) (before ++ (f :: fs ++ after)) = some (before, after) := by
  induction before with
  | nil =>
    have hstart : startsWithFolded? (w :: ws) (f :: fs ++ after) = some after :=
      startsWithFolded?_eq_some_iff.mpr ⟨_, rfl, hfound⟩
    rw [List.nil_append, List.cons_append, splitFolded?, ← List.cons_append, hstart]
  | cons c before ih =>
    have hstart : startsWithFolded? (w :: ws) (c :: before ++ (f :: fs ++ after)) = none := by
      rw [Option.eq_none_iff_forall_ne_some]
      intro rest hrest
      obtain ⟨earlier, hsplit, hearlier⟩ := startsWithFolded?_eq_some_iff.mp hrest
      rcases List.append_eq_append_iff.mp hsplit with ⟨part, rfl, hpart⟩ | ⟨gap, hgap, -⟩
      · rcases List.cons_eq_append_iff.mp hpart with ⟨rfl, -⟩ | ⟨part, rfl, -⟩
        · exact hbefore ⟨[], c :: before, [], by simp, by simpa using hearlier⟩
        · -- the earlier occurrence would reach into the word
          obtain ⟨-, hrest⟩ := List.forall₂_cons.mp hearlier
          obtain ⟨v, hv, hsame⟩ := Spells.exists_letter hrest (c := f) (by simp)
          rw [honce v hv] at hsame
          cases hsame
      · exact hbefore ⟨[], earlier, gap, hgap, hearlier⟩
    rw [List.cons_append, splitFolded?, ← List.cons_append, hstart,
      ih fun h => hbefore (occursFolded_cons.mpr (.inr h))]
    rfl

end ChartBoard.Text
