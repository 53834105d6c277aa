import ChartBoard.Number.Binary
import Mathlib

/-!
# Rounding to the nearest

The nearest of the naturals to a rational number, and the nearest of the numbers that a mantissa of
53 bits and an exponent from -1074 on stand for.  Halfway between two, the even one is taken.

* `IsNearest` is about naturals, `isNearest_roundDiv` says that quotients are rounded so.
* `Represents` says what a mantissa with two further bits stands for, and
  `isNearest_roundedMantissa` how it is rounded.
* `IsNearestDouble` is about mantissas and exponents, and `roundWithAccuracy_eq` says that the
  library rounds so.
-/

namespace ChartBoard.Number

/-! ## Naturals -/

/-- True of a natural that is nearest to a number, and even if it is halfway to another. -/
structure IsNearest (n : Nat) (r : ℚ) : Prop where
  le_half : |(n : ℚ) - r| ≤ 1 / 2
  even_of_half : |(n : ℚ) - r| = 1 / 2 → n % 2 = 0

variable {n m : Nat} {r f : ℚ}

theorem isNearest_of_lt_half (h₀ : 0 ≤ f) (h : f < 1 / 2) : IsNearest m (m + f) := by
  have hrest : |(m : ℚ) - (m + f)| = f := by rw [sub_add_cancel_left, abs_neg, abs_of_nonneg h₀]
  exact ⟨by rw [hrest]; exact h.le, fun hhalf => absurd (hrest.symm.trans hhalf) h.ne⟩

theorem isNearest_of_half_lt (h : 1 / 2 < f) (h₁ : f < 1) : IsNearest (m + 1) (m + f) := by
  have hrest : |((m + 1 : ℕ) : ℚ) - (m + f)| = 1 - f := by
    rw [Nat.cast_add_one, add_sub_add_left_eq_sub, abs_of_nonneg (by linarith)]
  refine ⟨by rw [hrest]; linarith, fun hhalf => ?_⟩
  rw [hrest] at hhalf
  linarith

/-- Halfway between two naturals the even one is taken. -/
theorem isNearest_half (m : Nat) : IsNearest (m + m % 2) (m + 1 / 2) := by
  rcases Nat.mod_two_eq_zero_or_one m with h | h
  · rw [h]
    refine ⟨le_of_eq ?_, fun _ => h⟩
    norm_num [sub_add_cancel_left]
  · rw [h]
    refine ⟨le_of_eq ?_, fun _ => by omega⟩
    norm_num [add_sub_add_left_eq_sub]

/-- No integer is nearer, and if one is as near, the natural is even. -/
theorem IsNearest.le (h : IsNearest n r) (j : ℤ) :
    |(n : ℚ) - r| ≤ |(j : ℚ) - r| ∧ (|(n : ℚ) - r| = |(j : ℚ) - r| → j = n ∨ n % 2 = 0) := by
  by_cases hj : j = n
  · subst hj
    exact ⟨by rw [Int.cast_natCast], fun _ => .inl rfl⟩
  · have hapart : (1 : ℚ) ≤ |(j : ℚ) - n| := by
      have hone : (1 : ℤ) ≤ |j - n| := Int.one_le_abs (sub_ne_zero.mpr hj)
      exact_mod_cast hone
    have htriangle : |(j : ℚ) - n| ≤ |(j : ℚ) - r| + |(n : ℚ) - r| := by
      rw [abs_sub_comm (n : ℚ) r]
      exact abs_sub_le _ _ _
    have hhalf := h.le_half
    exact ⟨by linarith, fun heq => .inr (h.even_of_half (by linarith))⟩

section

variable {num rem den : Nat}

theorem fraction_lt_half (h : 0 < den) : (rem : ℚ) / den < 1 / 2 ↔ 2 * rem < den := by
  rw [div_lt_div_iff₀ (Nat.cast_pos.mpr h) two_pos, one_mul, mul_comm]
  exact_mod_cast Iff.rfl

theorem half_lt_fraction (h : 0 < den) : 1 / 2 < (rem : ℚ) / den ↔ den < 2 * rem := by
  rw [div_lt_div_iff₀ two_pos (Nat.cast_pos.mpr h), one_mul, mul_comm]
  exact_mod_cast Iff.rfl

theorem fraction_eq_half (h : 2 * rem = den) (hden : 0 < den) : (rem : ℚ) / den = 1 / 2 := by
  rw [div_eq_div_iff (Nat.cast_pos.mpr hden).ne' two_ne_zero, one_mul, mul_comm]
  exact_mod_cast h

theorem fraction_lt_one (h : rem < den) : (rem : ℚ) / den < 1 := by
  rw [div_lt_one₀ (Nat.cast_pos.mpr (Nat.zero_lt_of_lt h))]
  exact_mod_cast h

theorem cast_div_eq (num : Nat) (h : 0 < den) :
    (num : ℚ) / den = (num / den : ℕ) + (num % den : ℕ) / (den : ℚ) := by
  have hden : (den : ℚ) ≠ 0 := (Nat.cast_pos.mpr h).ne'
  rw [div_eq_iff hden, add_mul, div_mul_cancel₀ _ hden]
  exact_mod_cast (Nat.div_add_mod' num den).symm

theorem isNearest_roundDiv (num : Nat) (h : 0 < den) :
    IsNearest (roundDiv num den) (num / den) := by
  have hrest : (num % den : ℕ) / (den : ℚ) < 1 := fraction_lt_one (Nat.mod_lt num h)
  rw [cast_div_eq num h, roundDiv]
  split
  · rename_i hlt
    have hnonneg : (0 : ℚ) ≤ (num % den : ℕ) / (den : ℚ) :=
      div_nonneg (Nat.cast_nonneg _) (Nat.cast_nonneg _)
    exact isNearest_of_lt_half hnonneg ((fraction_lt_half h).mpr hlt)
  · rename_i hge
    split
    · rename_i hgt
      exact isNearest_of_half_lt ((half_lt_fraction h).mpr hgt) hrest
    · rename_i hle
      rw [fraction_eq_half (by omega) h]
      exact isNearest_half _

end

/-! ## Mantissas with two further bits -/

open Float.Model Float.Model.UnpackedFloat

/-- What the bit for one half and the bit for anything else say of a fraction. -/
def Rest (half more : Bool) (f : ℚ) : Prop :=
  match half, more with
  | false, false => f = 0
  | false, true => 0 < f ∧ f < 1 / 2
  | true, false => f = 1 / 2
  | true, true => 1 / 2 < f ∧ f < 1

/-- True of a mantissa whose two further bits say how far a number is above it. -/
def Represents (em : ExtendedMantissa) (r : ℚ) : Prop :=
  Rest em.roundBit em.stickyBit (r - em.mantissa)

variable {em : ExtendedMantissa}

theorem represents_exact (m : Nat) :
    Represents (ExtendedMantissa.ofMantissaAndAccuracy m .exact) m := sub_self _

/-- The remainder of a division is kept in the two further bits. -/
theorem represents_quotient (num : Nat) {den : Nat} (h : 0 < den) :
    Represents (ExtendedMantissa.ofMantissaAndAccuracy (num / den)
      (accuracyOfFraction (num % den) den)) (num / den) := by
  have hrest : (num % den : ℕ) / (den : ℚ) < 1 := fraction_lt_one (Nat.mod_lt num h)
  rw [cast_div_eq num h, Represents, accuracyOfFraction]
  split
  · rename_i hzero
    change Rest false false _
    rw [hzero]
    simp [Rest, ExtendedMantissa.ofMantissaAndAccuracy]
  · rename_i hpos
    have hpos : (0 : ℚ) < (num % den : ℕ) / (den : ℚ) :=
      div_pos (Nat.cast_pos.mpr (Nat.pos_of_ne_zero hpos)) (Nat.cast_pos.mpr h)
    cases hcompare : compare (2 * (num % den)) den with
    | lt =>
      change Rest false true ((num / den : ℕ) + _ - (num / den : ℕ))
      rw [add_sub_cancel_left]
      exact ⟨hpos, (fraction_lt_half h).mpr (Nat.compare_eq_lt.mp hcompare)⟩
    | eq =>
      change Rest true false ((num / den : ℕ) + _ - (num / den : ℕ))
      rw [add_sub_cancel_left]
      exact fraction_eq_half (Nat.compare_eq_eq.mp hcompare) h
    | gt =>
      change Rest true true ((num / den : ℕ) + _ - (num / den : ℕ))
      rw [add_sub_cancel_left]
      exact ⟨(half_lt_fraction h).mpr (Nat.compare_eq_gt.mp hcompare), hrest⟩

theorem Represents.le (h : Represents em r) : (em.mantissa : ℚ) ≤ r ∧ r < em.mantissa + 1 := by
  unfold Represents Rest at h
  split at h <;> constructor <;> linarith

/-- The two further bits tell how to round. -/
theorem isNearest_roundedMantissa (h : Represents em r) : IsNearest em.roundedMantissa r := by
  obtain ⟨f, rfl⟩ : ∃ f, r = em.mantissa + f := ⟨r - em.mantissa, by ring⟩
  obtain ⟨m, half, more⟩ := em
  rw [Represents, add_sub_cancel_left] at h
  cases half <;> cases more
  · obtain rfl : f = 0 := h
    exact isNearest_of_lt_half le_rfl (by norm_num)
  · exact isNearest_of_lt_half h.1.le h.2
  · obtain rfl : f = 1 / 2 := h
    exact isNearest_half m
  · exact isNearest_of_half_lt h.1 h.2

/-- A bit that is shifted out becomes the bit for one half. -/
theorem Represents.shiftRightOne (h : Represents em r) : Represents em.shiftRightOne (r / 2) := by
  obtain ⟨m, half, more⟩ := em
  have hsplit : (m : ℚ) = 2 * (m / 2 : ℕ) + (m % 2 : ℕ) := by
    exact_mod_cast (Nat.div_add_mod m 2).symm
  rw [Represents] at h
  change Rest (m % 2 != 0) (half || more) (r / 2 - (m / 2 : ℕ))
  rw [hsplit] at h
  rcases Nat.mod_two_eq_zero_or_one m with hbit | hbit <;> rw [hbit] at h ⊢
  · change Rest false (half || more) _
    cases half <;> cases more <;> norm_num [Rest] at h ⊢ <;>
      first | linarith | (constructor <;> linarith)
  · change Rest true (half || more) _
    cases half <;> cases more <;> norm_num [Rest] at h ⊢ <;>
      first | linarith | (constructor <;> linarith)

theorem Represents.shiftRight (h : Represents em r) (k : Nat) :
    Represents (em >>> k) (r / 2 ^ k) := by
  change Represents (k.repeat ExtendedMantissa.shiftRightOne em) _
  induction k with
  | zero => simpa [Nat.repeat] using h
  | succ k ih =>
    rw [Nat.repeat, pow_succ, ← div_div]
    exact ih.shiftRightOne

/-! ## Mantissas and exponents of doubles -/

/-- True of the mantissa and the exponent of a finite double, the greatest exponent aside: the
mantissa has 53 bits, or fewer with the least exponent. -/
structure IsCanonical (m : Nat) (e : ℤ) : Prop where
  lt_two_pow : m < 2 ^ 53
  le_exponent : -1074 ≤ e
  full : e = -1074 ∨ 2 ^ 52 ≤ m

/-- True of a mantissa and an exponent that are nearest to a number, where the mantissa is even if
they are halfway to others. -/
structure IsNearestDouble (m : Nat) (e : ℤ) (q : ℚ) : Prop where
  le : ∀ k s : ℤ, k < 2 ^ 53 → -1074 ≤ s → |m * 2 ^ e - q| ≤ |k * 2 ^ s - q|
  even_of_eq : ∀ k s : ℤ, k < 2 ^ 53 → -1074 ≤ s → |m * 2 ^ e - q| = |k * 2 ^ s - q| →
    (k * 2 ^ s : ℚ) = m * 2 ^ e ∨ m % 2 = 0

variable {e t : ℤ} {q : ℚ}

/-- A double with a finer exponent is below all that have 53 bits at this one. -/
theorem mul_zpow_lt {k s : ℤ} (hk : k < 2 ^ 53) (hst : s < t) :
    (k : ℚ) * 2 ^ s < 2 ^ 52 * 2 ^ t := by
  have hk : (k : ℚ) < 2 ^ 53 := by exact_mod_cast hk
  calc (k : ℚ) * 2 ^ s
    _ < 2 ^ 53 * 2 ^ s := mul_lt_mul_of_pos_right hk (zpow_pos two_pos s)
    _ ≤ 2 ^ 53 * 2 ^ (t - 1) := mul_le_mul_of_nonneg_left
      (zpow_le_zpow_right₀ one_le_two (by omega)) (by positivity)
    _ = 2 ^ 52 * 2 ^ t := by
      rw [zpow_sub_one₀ two_ne_zero]
      ring

/-- A double with a coarser exponent is a multiple of this unit. -/
theorem exists_mul_zpow_eq {k s : ℤ} (hst : t ≤ s) : ∃ j : ℤ, (k : ℚ) * 2 ^ s = j * 2 ^ t := by
  refine ⟨k * 2 ^ (s - t).toNat, ?_⟩
  push_cast
  rw [mul_assoc, ← zpow_natCast, ← zpow_add₀ two_ne_zero]
  congr 2
  omega

/-- A mantissa that is rounded to the nearest, at an exponent that leaves it 53 bits or that is the
least one, makes the nearest double. -/
theorem isNearestDouble_of_isNearest (h : IsNearest n r) (ht : t = -1074 ∨ 2 ^ 52 ≤ r) :
    IsNearestDouble n t (r * 2 ^ t) := by
  have hunit : (0 : ℚ) < 2 ^ t := zpow_pos two_pos t
  have hscale (x : ℚ) : |x * 2 ^ t - r * 2 ^ t| = |x - r| * 2 ^ t := by
    rw [← sub_mul, abs_mul, abs_of_pos hunit]
  have hfine {k s : ℤ} (hk : k < 2 ^ 53) (hs : -1074 ≤ s) (hst : s < t) :
      |(n : ℚ) * 2 ^ t - r * 2 ^ t| < |(k : ℚ) * 2 ^ s - r * 2 ^ t| := by
    have hr : (2 ^ 52 : ℚ) ≤ r := ht.resolve_left (by omega)
    have hfull : |(n : ℚ) - r| ≤ r - 2 ^ 52 := by
      have hint := (h.le (2 ^ 52)).1
      rwa [Int.cast_pow, Int.cast_ofNat, abs_sub_comm (2 ^ 52 : ℚ),
        abs_of_nonneg (sub_nonneg.mpr hr)] at hint
    have hbelow := mul_zpow_lt hk hst
    calc |(n : ℚ) * 2 ^ t - r * 2 ^ t|
      _ = |(n : ℚ) - r| * 2 ^ t := hscale n
      _ ≤ (r - 2 ^ 52) * 2 ^ t := mul_le_mul_of_nonneg_right hfull hunit.le
      _ = r * 2 ^ t - 2 ^ 52 * 2 ^ t := sub_mul _ _ _
      _ < r * 2 ^ t - k * 2 ^ s := sub_lt_sub_left hbelow _
      _ ≤ |(k : ℚ) * 2 ^ s - r * 2 ^ t| := neg_sub (k * 2 ^ s : ℚ) _ ▸ neg_le_abs _
  constructor
  · intro k s hk hs
    by_cases hst : s < t
    · exact (hfine hk hs hst).le
    · obtain ⟨j, hj⟩ := exists_mul_zpow_eq (k := k) (not_lt.mp hst)
      rw [hj, hscale, hscale]
      exact mul_le_mul_of_nonneg_right (h.le j).1 hunit.le
  · intro k s hk hs heq
    by_cases hst : s < t
    · exact absurd heq (hfine hk hs hst).ne
    · obtain ⟨j, hj⟩ := exists_mul_zpow_eq (k := k) (not_lt.mp hst)
      rw [hj, hscale, hscale] at heq
      rw [hj]
      refine ((h.le j).2 (mul_right_cancel₀ hunit.ne' heq)).imp_left fun hn => ?_
      rw [hn, Int.cast_natCast]

/-- A mantissa of one bit too many is written with the next exponent. -/
theorem IsNearestDouble.carry (h : IsNearestDouble (2 ^ 53) t q) :
    IsNearestDouble (2 ^ 52) (t + 1) q := by
  have hsame : ((2 ^ 52 : ℕ) : ℚ) * 2 ^ (t + 1) = ((2 ^ 53 : ℕ) : ℚ) * 2 ^ t := by
    rw [zpow_add_one₀ two_ne_zero]
    push_cast
    ring
  exact ⟨fun k s hk hs => hsame ▸ h.le k s hk hs, fun _ _ _ _ _ => .inr (by norm_num)⟩

/-! ## Rounding by the library -/

/-- A finite number of the library, which has zeros of their own. -/
def unpacked (s : Sign) (m : Nat) (e : ℤ) : UnpackedFloat :=
  if h : m = 0 then .zero s else .finite s m e (Nat.pos_of_ne_zero h)

theorem targetExponent_eq (m : Nat) (e : ℤ) :
    Format.binary64.targetExponent (totalExponent m e) = max (m.log2 + e - 52) (-1074) := by
  simp only [Format.targetExponent, totalExponent, Format.mantissaBits, Format.minExponent]
  norm_num
  omega

theorem shiftToTargetExponent_of_lt (h : m < 2 ^ 53) (he : -1074 ≤ e) :
    shiftToTargetExponent Format.binary64 m e .exact = (⟨m, false, false⟩, e) := by
  have hlog : m.log2 ≤ 52 := by
    by_cases hm : m = 0
    · simp [hm]
    · exact Nat.lt_succ_iff.mp ((Nat.log2_lt hm).mpr h)
  have hshift : (Format.binary64.targetExponent (totalExponent m e) - e).toNat = 0 := by
    rw [targetExponent_eq]
    omega
  rw [shiftToTargetExponent, shiftToExponent, hshift]
  exact Prod.ext rfl (add_zero e)

/-- A mantissa with one bit too many is a power of two. -/
theorem shiftToTargetExponent_two_pow (he : -1074 ≤ e) :
    shiftToTargetExponent Format.binary64 (2 ^ 53) e .exact = (⟨2 ^ 52, false, false⟩, e + 1) := by
  have hshift : (Format.binary64.targetExponent (totalExponent (2 ^ 53) e) - e).toNat = 1 := by
    rw [targetExponent_eq, Nat.log2_two_pow]
    omega
  rw [shiftToTargetExponent, shiftToExponent, hshift]
  rfl

/-- What is left of a number at the exponent that it is shifted to has at most 53 bits, and no fewer
unless the exponent is the least one. -/
theorem shifted_bounds {acc : Accuracy} {k : Nat}
    (h : Represents (ExtendedMantissa.ofMantissaAndAccuracy m acc) r)
    (ht : t = max (m.log2 + e - 52) (-1074)) (hk : e + k = t) :
    r / 2 ^ k < 2 ^ 53 ∧ (t = -1074 ∨ 2 ^ 52 ≤ r / 2 ^ k) := by
  have hm : (ExtendedMantissa.ofMantissaAndAccuracy m acc).mantissa = m := by
    rcases acc with _ | _ | _ | _ <;> rfl
  have hr := h.le
  rw [hm] at hr
  have hunit : (0 : ℚ) < 2 ^ k := by positivity
  constructor
  · rw [div_lt_iff₀ hunit]
    have hlog : m + 1 ≤ 2 ^ 53 * 2 ^ k := by
      rw [← pow_add]
      exact Nat.lt_log2_self.trans_le (Nat.pow_le_pow_right two_pos (by omega))
    exact hr.2.trans_le (by exact_mod_cast hlog)
  · refine or_iff_not_imp_left.mpr fun hleast => ?_
    rw [le_div_iff₀ hunit]
    have hlog : m.log2 = 52 + k := by omega
    have hne : m ≠ 0 := by
      rintro rfl
      rw [Nat.log2_zero] at hlog
      omega
    have hfull : 2 ^ 52 * 2 ^ k ≤ m := by
      rw [← pow_add, ← hlog]
      exact Nat.log2_self_le hne
    exact le_trans (by exact_mod_cast hfull) hr.1

/-- A nearest double is shifted to one that is canonical, with the next exponent if its mantissa was
rounded up to one bit too many. -/
theorem IsNearestDouble.shifted (h : IsNearestDouble n t q) (hle : n ≤ 2 ^ 53) (ht : -1074 ≤ t)
    (hfull : t = -1074 ∨ 2 ^ 52 ≤ n) :
    ∃ m e, IsCanonical m e ∧ IsNearestDouble m e q ∧
      shiftToTargetExponent Format.binary64 n t .exact = (⟨m, false, false⟩, e) := by
  rcases hle.lt_or_eq with hlt | rfl
  · exact ⟨n, t, ⟨hlt, ht, hfull⟩, h, shiftToTargetExponent_of_lt hlt ht⟩
  · exact ⟨2 ^ 52, t + 1, ⟨by norm_num, by omega, .inr le_rfl⟩, h.carry,
      shiftToTargetExponent_two_pow ht⟩

/-- The library rounds to the nearest double. -/
theorem roundWithAccuracy_eq {acc : Accuracy}
    (h : Represents (ExtendedMantissa.ofMantissaAndAccuracy m acc) r)
    (he : e ≤ Format.binary64.targetExponent (totalExponent m e)) (s : Sign) :
    ∃ n t, IsCanonical n t ∧ IsNearestDouble n t (r * 2 ^ e) ∧
      roundWithAccuracy Format.binary64 s m e acc = unpacked s n t := by
  obtain ⟨k, hk⟩ : ∃ k : ℕ, e + k = Format.binary64.targetExponent (totalExponent m e) :=
    ⟨_, by rw [Int.toNat_of_nonneg (sub_nonneg.mpr he)]; ring⟩
  have ht := targetExponent_eq m e
  set t := Format.binary64.targetExponent (totalExponent m e) with hdef
  obtain ⟨hsmall, hfull⟩ := shifted_bounds h ht hk
  have hnearest := isNearest_roundedMantissa (h.shiftRight k)
  set n := (ExtendedMantissa.ofMantissaAndAccuracy m acc >>> k).roundedMantissa with hn
  have hvalue : r / 2 ^ k * 2 ^ t = r * 2 ^ e := by
    rw [← hk, zpow_add₀ two_ne_zero, zpow_natCast]
    field_simp
  have hdouble : IsNearestDouble n t (r * 2 ^ e) :=
    hvalue ▸ isNearestDouble_of_isNearest hnearest hfull
  -- rounding moves the mantissa by no more than one half, so the bounds hold of it too
  have hhalf := abs_le.mp hnearest.le_half
  have hle : n ≤ 2 ^ 53 := by
    have hbound : (n : ℚ) < 2 ^ 53 + 1 := by linarith
    exact Nat.lt_succ_iff.mp (by exact_mod_cast hbound)
  have hge : t = -1074 ∨ 2 ^ 52 ≤ n := by
    refine hfull.imp_right fun hfull => ?_
    have hbound : (2 ^ 52 : ℚ) < n + 1 := by linarith
    exact Nat.lt_succ_iff.mp (by exact_mod_cast hbound)
  obtain ⟨n', t', hcanonical, hdouble', hagain⟩ := hdouble.shifted hle (by omega) hge
  have hshift : shiftToTargetExponent Format.binary64 m e acc =
      (ExtendedMantissa.ofMantissaAndAccuracy m acc >>> k, t) := by
    have hamount : (t - e).toNat = k := by omega
    rw [shiftToTargetExponent, shiftToExponent, ← hdef, hamount, hk]
  refine ⟨n', t', hcanonical, hdouble', ?_⟩
  rw [roundWithAccuracy, hshift]
  dsimp only
  rw [← hn, hagain]
  rfl

theorem log2_mul_two_pow (h : n ≠ 0) (k : Nat) : (n * 2 ^ k).log2 = n.log2 + k := by
  induction k with
  | zero => rw [pow_zero, mul_one, add_zero]
  | succ k ih =>
    have hne : n * 2 ^ k ≠ 0 := mul_ne_zero h (pow_ne_zero k two_ne_zero)
    rw [pow_succ', mul_left_comm, Nat.log2_two_mul hne, ih, add_assoc]

theorem round_eq (hn : 0 < n) (h : n < 2 ^ 53) (s : Sign) :
    ∃ m e, IsCanonical m e ∧ IsNearestDouble m e n ∧
      UnpackedFloat.round Format.binary64 s n 0 = unpacked s m e := by
  have hlog : n.log2 ≤ 52 := Nat.lt_succ_iff.mp ((Nat.log2_lt hn.ne').mpr h)
  have ht := targetExponent_eq n 0
  set t := Format.binary64.targetExponent (totalExponent n 0) with hdef
  obtain ⟨k, hk⟩ : ∃ k : ℕ, -(k : ℤ) = t := ⟨(-t).toNat, by omega⟩
  have hdecrease : decreaseExponent n 0 t = (n * 2 ^ k, -(k : ℤ)) := by
    have hamount : (0 - t).toNat = k := by omega
    rw [decreaseExponent, hamount, Nat.shiftLeft_eq, zero_sub]
  have hexact := represents_exact (n * 2 ^ k)
  have hfits : -(k : ℤ) ≤
      Format.binary64.targetExponent (totalExponent (n * 2 ^ k) (-(k : ℤ))) := by
    rw [targetExponent_eq, log2_mul_two_pow hn.ne']
    omega
  obtain ⟨m, e, hcanonical, hnearest, heq⟩ := roundWithAccuracy_eq hexact hfits s
  refine ⟨m, e, hcanonical, ?_, ?_⟩
  · have hvalue : ((n * 2 ^ k : ℕ) : ℚ) * 2 ^ (-(k : ℤ)) = n := by
      rw [Nat.cast_mul, mul_assoc, zpow_neg, zpow_natCast, Nat.cast_pow, Nat.cast_ofNat,
        mul_inv_cancel₀ (by positivity), mul_one]
    exact hvalue ▸ hnearest
  · rw [UnpackedFloat.round, ← hdef, hdecrease]
    exact heq

/-- A quotient is computed with enough bits, or at the least exponent at least. -/
theorem divCore_fits {m₁ m₂ k : Nat} {e₁ e₂ : ℤ} (h₁ : 0 < m₁) (h₂ : 0 < m₂)
    (ht : t = min (e₁ - e₂)
      (Format.binary64.targetExponent (totalExponent m₁ e₁ - totalExponent m₂ e₂)))
    (hk : e₁ - e₂ - t = k) :
    t ≤ Format.binary64.targetExponent (totalExponent (m₁ * 2 ^ k / m₂) t) := by
  have htarget : Format.binary64.targetExponent (totalExponent m₁ e₁ - totalExponent m₂ e₂) =
      max ((m₁.log2 + e₁) - (m₂.log2 + e₂) - 53) (-1074) := by
    simp only [Format.targetExponent, totalExponent, Format.mantissaBits, Format.minExponent]
    norm_num
    omega
  rw [htarget] at ht
  rw [targetExponent_eq]
  by_cases hleast : t ≤ -1074
  · exact le_max_of_le_right hleast
  · have hbits : m₂.log2 + 53 ≤ m₁.log2 + k := by omega
    have hfull : 2 ^ 52 ≤ m₁ * 2 ^ k / m₂ := by
      rw [Nat.le_div_iff_mul_le h₂]
      calc 2 ^ 52 * m₂
        _ ≤ 2 ^ 52 * 2 ^ (m₂.log2 + 1) := Nat.mul_le_mul_left _ Nat.lt_log2_self.le
        _ = 2 ^ (m₂.log2 + 53) := by rw [← pow_add]; congr 1; omega
        _ ≤ 2 ^ (m₁.log2 + k) := Nat.pow_le_pow_right two_pos hbits
        _ = 2 ^ m₁.log2 * 2 ^ k := pow_add _ _ _
        _ ≤ m₁ * 2 ^ k := Nat.mul_le_mul_right _ (Nat.log2_self_le h₁.ne')
    have hne : m₁ * 2 ^ k / m₂ ≠ 0 := by
      have hpos : 0 < 2 ^ 52 := by norm_num
      omega
    have hlog := (Nat.le_log2 hne).mpr hfull
    omega

theorem div_eq {m₁ m₂ : Nat} {e₁ e₂ : ℤ} (h₁ : 0 < m₁) (h₂ : 0 < m₂) (s₁ s₂ : Sign) :
    ∃ m e, IsCanonical m e ∧ IsNearestDouble m e (m₁ * 2 ^ e₁ / (m₂ * 2 ^ e₂)) ∧
      UnpackedFloat.div Format.binary64 (.finite s₁ m₁ e₁ h₁) (.finite s₂ m₂ e₂ h₂) =
        unpacked (s₁ / s₂) m e := by
  rw [UnpackedFloat.div, divCore]
  dsimp only
  set t := min (e₁ - e₂)
    (Format.binary64.targetExponent (totalExponent m₁ e₁ - totalExponent m₂ e₂)) with ht
  obtain ⟨k, hk⟩ : ∃ k : ℕ, e₁ - e₂ - t = k := ⟨(e₁ - e₂ - t).toNat, by omega⟩
  rw [hk, Int.toNat_natCast, Nat.shiftLeft_eq]
  have hquotient := represents_quotient (m₁ * 2 ^ k) h₂
  have hfits := divCore_fits h₁ h₂ ht hk
  obtain ⟨m, e, hcanonical, hnearest, heq⟩ := roundWithAccuracy_eq hquotient hfits (s₁ / s₂)
  refine ⟨m, e, hcanonical, ?_, heq⟩
  have hvalue : ((m₁ * 2 ^ k : ℕ) : ℚ) / m₂ * 2 ^ t = m₁ * 2 ^ e₁ / (m₂ * 2 ^ e₂) := by
    have he₁ : e₁ = k + t + e₂ := by omega
    rw [he₁, zpow_add₀ two_ne_zero, zpow_add₀ two_ne_zero, zpow_natCast, Nat.cast_mul, Nat.cast_pow,
      Nat.cast_ofNat]
    have hm₂ : (m₂ : ℚ) ≠ 0 := (Nat.cast_pos.mpr h₂).ne'
    field_simp
  exact hvalue ▸ hnearest

end ChartBoard.Number
