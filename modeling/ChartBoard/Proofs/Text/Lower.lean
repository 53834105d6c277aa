import ChartBoard.Text.Case
import Mathlib.Data.List.Basic

/-!
# Lower case is final

No character of a text in lower case has a lower case other than itself, so lowering a text twice
is lowering it once.

* `small_of_mem_lowerFrom` says so of the characters.
* `lower_lower` and `lower_ne_empty` are the results.
-/

namespace ChartBoard.Text

/-! ## Runs and their images -/

/-- The code point is one that the run maps. -/
def CaseRun.Covers (run : CaseRun) (n : Nat) : Prop :=
  run.first ≤ n ∧ n ≤ run.last ∧ (n - run.first) % run.step = 0

instance (run : CaseRun) (n : Nat) : Decidable (run.Covers n) := instDecidableAnd

/-- The code point that the run maps `n` to. -/
def CaseRun.image (run : CaseRun) (n : Nat) : Nat := ((n : Int) + run.shift).toNat

/-- True when the images of `run` lie beside `other`, or on the other half of its code points. -/
def CaseRun.avoids (run other : CaseRun) : Bool :=
  run.image run.last < other.first || other.last < run.image run.first
    || (other.step == 2 && (run.step == 2 || run.first == run.last)
      && (run.image run.first + other.first) % 2 == 1)

/-- True when all images are characters. -/
def CaseRun.lands (run : CaseRun) : Bool :=
  -run.shift < run.first && (run.image run.last < 0xd800
    || (0xdfff < run.image run.first && run.image run.last < 0x110000))

/-- The capital whose lower case is two characters, as a run of its own. -/
def dottedCapital : CaseRun := ⟨0x130, 0x130, 1, 0⟩

/-- No image of a run is a character that has a lower case of its own. -/
theorem lowerRuns_avoid : (lowerRuns.all fun run =>
    run.lands && (dottedCapital :: lowerRuns).all run.avoids) = true := by
  decide +kernel

theorem not_covers_image {run other : CaseRun} {n : Nat} (hlands : run.lands = true)
    (havoids : run.avoids other = true) (hn : run.Covers n) : ¬ other.Covers (run.image n) := by
  obtain ⟨hfirst, hlast, hstep⟩ := hn
  rintro ⟨hfirst', hlast', hstep'⟩
  simp only [CaseRun.lands, CaseRun.avoids, Bool.and_eq_true, Bool.or_eq_true,
    decide_eq_true_eq, beq_iff_eq] at hlands havoids
  unfold CaseRun.image at *
  rcases havoids with (hbelow | habove) | ⟨⟨htwo, hhalf⟩, hodd⟩
  · omega
  · omega
  · rw [htwo] at hstep'
    rcases hhalf with hsteps | hsingle
    · rw [hsteps] at hstep
      omega
    · omega

theorem toNat_ofNat_image {run : CaseRun} {n : Nat} (hlands : run.lands = true)
    (hn : run.Covers n) : (Char.ofNat (run.image n)).toNat = run.image n := by
  have hvalid : (run.image n).isValidChar := by
    obtain ⟨hfirst, hlast, -⟩ := hn
    simp only [CaseRun.lands, Bool.and_eq_true, Bool.or_eq_true, decide_eq_true_eq] at hlands
    unfold CaseRun.image at *
    unfold Nat.isValidChar
    omega
  rw [Char.ofNat, dif_pos hvalid]
  rfl

theorem shiftChar_eq_or_covers (runs : List CaseRun) (c : Char) : shiftChar runs c = c ∨
    ∃ run ∈ runs, run.Covers c.toNat ∧ shiftChar runs c = Char.ofNat (run.image c.toNat) := by
  induction runs with
  | nil => exact Or.inl rfl
  | cons run runs ih =>
    rw [shiftChar]
    split
    · exact Or.inl rfl
    · rename_i hfirst
      split
      · rename_i hin
        rw [Bool.and_eq_true, decide_eq_true_eq, beq_iff_eq] at hin
        exact Or.inr ⟨run, List.mem_cons_self, ⟨Nat.le_of_not_lt hfirst, hin⟩, rfl⟩
      · exact ih.imp_right fun ⟨r, hr, h⟩ => ⟨r, List.mem_cons_of_mem run hr, h⟩

theorem shiftChar_of_not_covers {runs : List CaseRun} {c : Char}
    (h : ∀ run ∈ runs, ¬ run.Covers c.toNat) : shiftChar runs c = c := by
  rcases shiftChar_eq_or_covers runs c with hsame | ⟨run, hrun, hcovers, -⟩
  · exact hsame
  · exact absurd hcovers (h run hrun)

/-! ## Characters in lower case -/

/-- A character that is its own lower case and has no further form. -/
def Small (c : Char) : Prop := lowerChar c = [c] ∧ c.toNat ≠ 0x3a3

instance (c : Char) : Decidable (Small c) := instDecidableAnd

theorem toLower_eq_shiftChar {c : Char} (h : c.toNat < 0x80) :
    c.toLower = shiftChar lowerRuns c := by
  have hall : ∀ n < 0x80, (Char.ofNat n).toLower = shiftChar lowerRuns (Char.ofNat n) := by
    decide
  simpa using hall c.toNat h

theorem lowerChar_of_ne {c : Char} (h : c.toNat ≠ 0x130) :
    lowerChar c = [shiftChar lowerRuns c] := by
  unfold lowerChar
  split
  · rename_i hascii
    rw [toLower_eq_shiftChar hascii]
  · rfl

theorem small_image {run : CaseRun} (hrun : run ∈ lowerRuns) {n : Nat} (hn : run.Covers n) :
    Small (Char.ofNat (run.image n)) := by
  have hall := List.all_eq_true.mp lowerRuns_avoid run hrun
  obtain ⟨hlands, havoids⟩ := Bool.and_eq_true_iff.mp hall
  have hcode := toNat_ofNat_image hlands hn
  have hnot : ∀ other ∈ dottedCapital :: lowerRuns,
      ¬ other.Covers (Char.ofNat (run.image n)).toNat := fun other hother => by
    rw [hcode]
    exact not_covers_image hlands (List.all_eq_true.mp havoids other hother) hn
  have hdotted : (Char.ofNat (run.image n)).toNat ≠ 0x130 := fun heq =>
    hnot dottedCapital List.mem_cons_self (by rw [heq]; decide)
  constructor
  · rw [lowerChar_of_ne hdotted,
      shiftChar_of_not_covers fun other h => hnot other (List.mem_cons_of_mem _ h)]
  · intro hsigma
    have hcovered : ∃ other ∈ lowerRuns, other.Covers 0x3a3 := by decide
    obtain ⟨other, hother, hcovers⟩ := hcovered
    exact hnot other (List.mem_cons_of_mem _ hother) (hsigma ▸ hcovers)

theorem small_of_mem_lowerChar {c d : Char} (hc : c.toNat ≠ 0x3a3) (h : d ∈ lowerChar c) :
    Small d := by
  by_cases hdotted : c.toNat = 0x130
  · have hletter : Small 'i' := by decide
    have hdot : Small (Char.ofNat 0x307) := by decide
    rw [lowerChar, if_neg (by omega), if_pos hdotted] at h
    rcases List.mem_pair.mp h with rfl | rfl
    · exact hletter
    · exact hdot
  · rw [lowerChar_of_ne hdotted] at h
    obtain rfl := List.mem_singleton.mp h
    rcases shiftChar_eq_or_covers lowerRuns c with hsame | ⟨run, hrun, hcovers, himage⟩
    · rw [hsame]
      exact ⟨by rw [lowerChar_of_ne hdotted, hsame], hc⟩
    · rw [himage]
      exact small_image hrun hcovers

theorem small_of_mem_lowerFrom {inWord : Bool} {cs : List Char} {d : Char}
    (h : d ∈ lowerFrom inWord cs) : Small d := by
  induction cs generalizing inWord with
  | nil => cases h
  | cons c rest ih =>
    rw [lowerFrom, List.mem_append] at h
    rcases h with himage | hrest
    · split at himage
      · have hsigma : ∀ last : Bool, Small (Char.ofNat (if last then 0x3c2 else 0x3c3)) := by
          decide
        obtain rfl := List.mem_singleton.mp himage
        exact hsigma _
      · rename_i hsigma
        exact small_of_mem_lowerChar hsigma himage
    · exact ih hrest

theorem lowerFrom_of_small {inWord : Bool} {cs : List Char} (h : ∀ c ∈ cs, Small c) :
    lowerFrom inWord cs = cs := by
  induction cs generalizing inWord with
  | nil => rfl
  | cons c rest ih =>
    obtain ⟨hsame, hsigma⟩ := h c List.mem_cons_self
    rw [lowerFrom, if_neg hsigma, hsame, ih fun d hd => h d (List.mem_cons_of_mem c hd)]
    rfl

theorem lower_lower (s : String) : lower (lower s) = lower s := by
  have hsmall : lowerFrom false (lower s).toList = (lower s).toList :=
    lowerFrom_of_small fun c hc => small_of_mem_lowerFrom (by simpa [lower] using hc)
  rw [lower, hsmall, String.ofList_toList]

theorem lower_ne_empty {s : String} (h : s ≠ "") : lower s ≠ "" := by
  have hlist : s.toList ≠ [] := fun hnil => h (String.toList_inj.mp hnil)
  obtain ⟨c, rest, hs⟩ := List.exists_cons_of_ne_nil hlist
  have himage : lowerChar c ≠ [] := by
    unfold lowerChar
    split
    · exact List.cons_ne_nil _ _
    · split <;> exact List.cons_ne_nil _ _
  intro hempty
  have hnil := congrArg String.toList hempty
  rw [lower, hs, lowerFrom, String.toList_ofList] at hnil
  have hfirst := (List.append_eq_nil_iff.mp hnil).1
  split at hfirst
  · cases hfirst
  · exact himage hfirst

end ChartBoard.Text
