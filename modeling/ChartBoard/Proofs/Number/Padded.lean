import ChartBoard.Number.Notation
import Mathlib.Algebra.Group.Nat.Defs
import Mathlib.Data.String.Basic
import Mathlib.Tactic.IntervalCases
import Mathlib.Tactic.Tauto

/-!
# Numbers with zeros in front

A number written up to a width has exactly that many digits if it is below the power of ten, and it
is the number that its digits spell.

* `length_padded` is the number of digits, `isDigit_of_mem_padded` says that there is nothing else.
* `ofDigitChars_padded` reads the number back, so that `padded_inj` and `padded_append_inj` tell
  numbers apart.
* `padded_lt_iff` and `padded_append_lt_iff` say that the order of texts is the order of the
  numbers.
-/

namespace ChartBoard.Number

variable {width m n : Nat}

theorem toList_padded (width n : Nat) :
    (padded width n).toList =
      List.replicate (width - (Nat.toDigits 10 n).length) '0' ++ Nat.toDigits 10 n :=
  String.toList_ofList

theorem length_padded (hwidth : 0 < width) (h : n < 10 ^ width) :
    (padded width n).toList.length = width := by
  have hdigits := (Nat.length_toDigits_le_iff (by decide) hwidth).mpr h
  rw [toList_padded, List.length_append, List.length_replicate]
  omega

theorem isDigit_of_mem_padded {c : Char} (h : c ∈ (padded width n).toList) : c.isDigit = true := by
  rw [toList_padded] at h
  rcases List.mem_append.mp h with hzero | hdigit
  · rw [List.eq_of_mem_replicate hzero]
    rfl
  · exact Nat.isDigit_of_mem_toDigits (by decide) (by decide) hdigit

theorem ofDigitChars_padded (width n : Nat) :
    Nat.ofDigitChars 10 (padded width n).toList 0 = n := by
  rw [toList_padded, Nat.ofDigitChars_append, Nat.ofDigitChars_replicate_zero, Nat.mul_zero,
    Nat.ofDigitChars_ten_toDigits]

theorem padded_inj : padded width m = padded width n ↔ m = n := by
  refine ⟨fun h => ?_, fun h => by rw [h]⟩
  rw [← ofDigitChars_padded width m, h, ofDigitChars_padded]

/-- Numbers of one width are told apart where they are followed by further characters. -/
theorem padded_append_inj {width m n : Nat} (hwidth : 0 < width) (hm : m < 10 ^ width)
    (hn : n < 10 ^ width) {s t : String} :
    padded width m ++ s = padded width n ++ t ↔ m = n ∧ s = t := by
  constructor
  · intro h
    have hchars : (padded width m).toList ++ s.toList = (padded width n).toList ++ t.toList := by
      simpa using congrArg String.toList h
    obtain ⟨hnumber, hrest⟩ := List.append_inj hchars
      (by rw [length_padded hwidth hm, length_padded hwidth hn])
    exact ⟨padded_inj.mp (String.toList_inj.mp hnumber), String.toList_inj.mp hrest⟩
  · rintro ⟨rfl, rfl⟩
    rfl

/-! ## Order -/

theorem toNat_mem_of_isDigit {c : Char} (h : c.isDigit = true) : 48 ≤ c.toNat ∧ c.toNat ≤ 57 := by
  simpa [Char.isDigit, UInt32.le_iff_toNat_le] using h

/-- The decimal digits. -/
def digitCharacters : List Char := ['0', '1', '2', '3', '4', '5', '6', '7', '8', '9']

theorem mem_digitCharacters {c : Char} (h : c.isDigit = true) : c ∈ digitCharacters := by
  obtain ⟨hleast, hgreatest⟩ := toNat_mem_of_isDigit h
  rw [← Char.ofNat_toNat c]
  generalize c.toNat = n at hleast hgreatest
  interval_cases n <;> decide

/-- The first digit counts as often as its place says. -/
theorem ofDigitChars_cons_zero (c : Char) (cs : List Char) :
    Nat.ofDigitChars 10 (c :: cs) 0 =
      10 ^ cs.length * (c.toNat - 48) + Nat.ofDigitChars 10 cs 0 := by
  rw [Nat.ofDigitChars_cons, Nat.mul_zero, Nat.zero_add, Nat.ofDigitChars_eq_ofDigitChars_zero]
  rfl

theorem ofDigitChars_lt {cs : List Char} (h : ∀ c ∈ cs, c.isDigit = true) :
    Nat.ofDigitChars 10 cs 0 < 10 ^ cs.length := by
  induction cs with
  | nil => decide
  | cons c cs ih =>
    have hc := toNat_mem_of_isDigit (h c List.mem_cons_self)
    have hrest := ih fun d hd => h d (List.mem_cons_of_mem c hd)
    have hfirst : 10 ^ cs.length * (c.toNat - 48) ≤ 10 ^ cs.length * 9 :=
      Nat.mul_le_mul_left _ (by omega)
    rw [ofDigitChars_cons_zero, List.length_cons, Nat.pow_succ]
    omega

theorem ofDigitChars_cons_lt {c d : Char} {cs ds : List Char} (hlength : cs.length = ds.length)
    (hcs : ∀ e ∈ c :: cs, e.isDigit = true) (h : c.toNat < d.toNat) :
    Nat.ofDigitChars 10 (c :: cs) 0 < Nat.ofDigitChars 10 (d :: ds) 0 := by
  have hc := toNat_mem_of_isDigit (hcs c List.mem_cons_self)
  have hrest := ofDigitChars_lt fun e he => hcs e (List.mem_cons_of_mem c he)
  have hfirst : 10 ^ cs.length * (c.toNat - 48 + 1) ≤ 10 ^ cs.length * (d.toNat - 48) :=
    Nat.mul_le_mul_left _ (by omega)
  rw [ofDigitChars_cons_zero, ofDigitChars_cons_zero, ← hlength]
  rw [Nat.mul_succ] at hfirst
  omega

/-- Digits of one length are ordered like the numbers that they spell. -/
theorem lt_iff_ofDigitChars_lt {cs ds : List Char} (hlength : cs.length = ds.length)
    (hcs : ∀ c ∈ cs, c.isDigit = true) (hds : ∀ d ∈ ds, d.isDigit = true) :
    cs < ds ↔ Nat.ofDigitChars 10 cs 0 < Nat.ofDigitChars 10 ds 0 := by
  induction cs generalizing ds with
  | nil =>
    obtain rfl := List.length_eq_zero_iff.mp hlength.symm
    simp
  | cons c cs ih =>
    obtain ⟨d, ds, rfl⟩ := List.exists_cons_of_length_eq_add_one hlength.symm
    have hrest : cs.length = ds.length := Nat.succ.inj hlength
    rw [List.cons_lt_cons_iff, Char.lt_def, UInt32.lt_iff_toNat_lt]
    rcases Nat.lt_trichotomy c.toNat d.toNat with hlt | heq | hgt
    · exact iff_of_true (.inl hlt) (ofDigitChars_cons_lt hrest hcs hlt)
    · obtain rfl : c = d := Char.toNat_inj.mp heq
      rw [ofDigitChars_cons_zero, ofDigitChars_cons_zero, hrest, Nat.add_lt_add_iff_left,
        ← ih hrest (fun e he => hcs e (List.mem_cons_of_mem c he)) fun e he =>
          hds e (List.mem_cons_of_mem c he)]
      simp
    · have hvalue := ofDigitChars_cons_lt hrest.symm hds hgt
      refine iff_of_false ?_ (Nat.lt_asymm hvalue)
      rintro (hlt | ⟨rfl, -⟩)
      · exact Nat.lt_asymm hgt hlt
      · exact Nat.lt_irrefl _ hgt

/-- What follows decides between texts of one length that agree. -/
theorem append_lt_append_iff {cs ds s t : List Char} (h : cs.length = ds.length) :
    cs ++ s < ds ++ t ↔ cs < ds ∨ cs = ds ∧ s < t := by
  induction cs generalizing ds with
  | nil =>
    obtain rfl := List.length_eq_zero_iff.mp h.symm
    simp
  | cons c cs ih =>
    obtain ⟨d, ds, rfl⟩ := List.exists_cons_of_length_eq_add_one h.symm
    simp only [List.cons_append, List.cons_lt_cons_iff, List.cons.injEq, ih (Nat.succ.inj h)]
    tauto

theorem padded_lt_iff (hwidth : 0 < width) (hm : m < 10 ^ width) (hn : n < 10 ^ width) :
    padded width m < padded width n ↔ m < n := by
  rw [String.lt_iff_toList_lt, lt_iff_ofDigitChars_lt
    (by rw [length_padded hwidth hm, length_padded hwidth hn])
    (fun _ => isDigit_of_mem_padded) fun _ => isDigit_of_mem_padded,
    ofDigitChars_padded, ofDigitChars_padded]

/-- Numbers of one width are ordered where they are followed by further characters. -/
theorem padded_append_lt_iff (hwidth : 0 < width) (hm : m < 10 ^ width) (hn : n < 10 ^ width)
    {s t : String} : padded width m ++ s < padded width n ++ t ↔ m < n ∨ m = n ∧ s < t := by
  rw [String.lt_iff_toList_lt, String.toList_append, String.toList_append,
    append_lt_append_iff (by rw [length_padded hwidth hm, length_padded hwidth hn]),
    ← String.lt_iff_toList_lt, ← String.lt_iff_toList_lt, padded_lt_iff hwidth hm hn,
    String.toList_inj, padded_inj]

end ChartBoard.Number
