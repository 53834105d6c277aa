import ChartBoard.Number.Decimal
import ChartBoard.Proofs.Number.Rounding

/-!
# Doubles and their exact values

A finite double is a sign, a mantissa and an exponent, whether it is taken apart here or by the
library.  So what is known of the library's rounding is known of the doubles that numbers are read
as.

* `unpack_of_ofFloat?` and `exists_ofFloat?_pack` go from the bits of a double to its mantissa and
  exponent and back, `exists_ofFloat?_iff` says which doubles have them.
* `exists_ofFloat?_nearest` says that hundredths are read as the nearest double.
* `Binary.IsNearestTo` says the same by exact values, with their signs.
-/

namespace ChartBoard.Number

open Float.Model Float.Model.UnpackedFloat

/-! ## Bits -/

section

variable (v : BitVec Format.binary64.numBits)

theorem toNat_unpackMantissa : (unpackMantissa v).toNat = v.toNat % 2 ^ 52 := by
  simp [unpackMantissa, BitVec.extractLsb_toNat]

theorem toNat_unpackExponent : (unpackExponent v).toNat = v.toNat / 2 ^ 52 % 2 ^ 11 := by
  simp [unpackExponent, BitVec.extractLsb_toNat, Nat.shiftRight_eq_div_pow]

theorem toNat_unpackSign : (unpackSign v).toNat = v.toNat / 2 ^ 63 := by
  have hlt : v.toNat < 2 ^ 64 := v.isLt
  simp only [unpackSign, BitVec.toNat_cast, BitVec.extractLsb_toNat, Nat.shiftRight_eq_div_pow]
  norm_num
  omega

end

theorem toNat_packComponents (s : Sign) (e : BitVec Format.binary64.exponentBits)
    (m : BitVec Format.binary64.mantissaBitsWithoutImplicit) :
    (packComponents Format.binary64 s e m).toNat =
      s.toBitVec.toNat * 2 ^ 63 + e.toNat * 2 ^ 52 + m.toNat := by
  have he : e.toNat < 2 ^ 11 := e.isLt
  have hm : m.toNat < 2 ^ 52 := m.isLt
  rw [packComponents, BitVec.toNat_append, ← Nat.shiftLeft_add_eq_or_of_lt hm, BitVec.toNat_append,
    ← Nat.shiftLeft_add_eq_or_of_lt he, Nat.shiftLeft_eq, Nat.shiftLeft_eq]
  norm_num
  ring

/-! ## Finite doubles -/

/-- The sign of a number that is negative or not. -/
def signOf (negative : Bool) : Sign := if negative then .negative else .positive

variable {x : Float} {b : Binary}

theorem Binary.eq_of_ofFloat? (h : Binary.ofFloat? x = some b) :
    b.negative = (x.toBits.toNat / 2 ^ 63 == 1) ∧ x.toBits.toNat / 2 ^ 52 % 2 ^ 11 ≠ 2047 ∧
      (x.toBits.toNat / 2 ^ 52 % 2 ^ 11 = 0 ∧ b.mantissa = x.toBits.toNat % 2 ^ 52 ∧
          b.exponent = -1074 ∨
        x.toBits.toNat / 2 ^ 52 % 2 ^ 11 ≠ 0 ∧ b.mantissa = x.toBits.toNat % 2 ^ 52 + 2 ^ 52 ∧
          b.exponent = (x.toBits.toNat / 2 ^ 52 % 2 ^ 11 : ℕ) - 1075) := by
  unfold Binary.ofFloat? power at h
  dsimp only at h
  split at h
  · cases h
  · rename_i hfinite
    split at h
    · rename_i hzero
      obtain rfl := Option.some.inj h
      exact ⟨rfl, hfinite, .inl ⟨hzero, rfl, rfl⟩⟩
    · rename_i hzero
      obtain rfl := Option.some.inj h
      exact ⟨rfl, hfinite, .inr ⟨hzero, rfl, rfl⟩⟩

theorem Binary.exists_ofFloat? (h : x.toBits.toNat / 2 ^ 52 % 2 ^ 11 ≠ 2047) :
    ∃ b, Binary.ofFloat? x = some b := by
  unfold Binary.ofFloat? power
  dsimp only
  split
  · rename_i hnone
    exact absurd hnone h
  · split <;> exact ⟨_, rfl⟩

/-- A finite double has a mantissa and an exponent in range. -/
theorem isCanonical_of_ofFloat? (h : Binary.ofFloat? x = some b) :
    IsCanonical b.mantissa b.exponent ∧ b.exponent ≤ 971 := by
  obtain ⟨-, hfinite, ⟨-, hm, he⟩ | ⟨hzero, hm, he⟩⟩ := Binary.eq_of_ofFloat? h
  · rw [hm, he]
    exact ⟨⟨by omega, le_rfl, .inl rfl⟩, by omega⟩
  · rw [hm, he]
    exact ⟨⟨by omega, by omega, .inr (by omega)⟩, by omega⟩

theorem unpacked_of_pos {s : Sign} {m : Nat} {e : ℤ} (h : 0 < m) :
    unpacked s m e = .finite s m e h := dif_neg h.ne'

theorem ofBitVec_unpackSign (v : BitVec Format.binary64.numBits) :
    Sign.ofBitVec (unpackSign v) = signOf (v.toNat / 2 ^ 63 == 1) := by
  have hlt : v.toNat < 2 ^ 64 := v.isLt
  have hsign := toNat_unpackSign v
  rcases (by omega : v.toNat / 2 ^ 63 = 0 ∨ v.toNat / 2 ^ 63 = 1) with h | h <;> rw [h] at hsign ⊢
  · rw [Sign.ofBitVec, if_pos (BitVec.eq_of_toNat_eq hsign)]
    rfl
  · rw [Sign.ofBitVec, if_neg fun heq => by rw [heq] at hsign; cases hsign]
    rfl

/-- The library takes the bits of a finite double apart in the same way. -/
theorem unpack_of_ofFloat? (h : Binary.ofFloat? x = some b) :
    x.toModel.unpack = unpacked (signOf b.negative) b.mantissa b.exponent := by
  obtain ⟨hnegative, hfinite, hcases⟩ := Binary.eq_of_ofFloat? h
  set v : BitVec Format.binary64.numBits := x.toModel.toBits.toBitVec with hv
  have hexponent : (unpackExponent v).toNat = x.toBits.toNat / 2 ^ 52 % 2 ^ 11 :=
    toNat_unpackExponent v
  have hmantissa : (unpackMantissa v).toNat = x.toBits.toNat % 2 ^ 52 := toNat_unpackMantissa v
  have hnumber : unpackExponent v ≠ -1#_ := fun heq =>
    hfinite (hexponent.symm.trans (congrArg BitVec.toNat heq))
  rw [Float.Model.unpack, UnpackedFloat.unpack, ← hv, if_neg hnumber, ofBitVec_unpackSign,
    hnegative]
  rcases hcases with ⟨hzero, hm, he⟩ | ⟨hzero, hm, he⟩
  · have hnone : unpackExponent v = 0#_ := BitVec.eq_of_toNat_eq (hexponent.trans hzero)
    rw [if_pos hnone, hm, he, ← hmantissa]
    split
    · rename_i hnone
      rw [hnone]
      rfl
    · rename_i hsome
      rw [unpacked_of_pos (by simpa [BitVec.toNat_pos, BitVec.pos_iff_ne_zero] using hsome)]
      rw [hexponent, hzero]
      rfl
  · rw [if_neg fun heq => hzero (hexponent.symm.trans (congrArg BitVec.toNat heq)), hm, he]
    have hfull : (1#1 ++ unpackMantissa v).toNat = x.toBits.toNat % 2 ^ 52 + 2 ^ 52 := by
      rw [BitVec.toNat_append, ← Nat.shiftLeft_add_eq_or_of_lt (unpackMantissa v).isLt, hmantissa]
      exact add_comm _ _
    rw [← hfull, unpacked_of_pos (by rw [hfull]; omega), ← hexponent]
    rfl

theorem toNat_toBitVec_signOf (negative : Bool) :
    (signOf negative).toBitVec.toNat = if negative then 1 else 0 := by
  cases negative <;> rfl

/-- The bits that the library makes of a mantissa and an exponent. -/
theorem toNat_pack {m : Nat} {e : ℤ} (h : IsCanonical m e) (he : e ≤ 971) (negative : Bool) :
    (UnpackedFloat.pack Format.binary64 (unpacked (signOf negative) m e)).toNat =
      (if negative then 1 else 0) * 2 ^ 63 +
        (if 2 ^ 52 ≤ m then (e + 1075).toNat else 0) * 2 ^ 52 + m % 2 ^ 52 := by
  obtain ⟨hlt, hleast, hfull⟩ := h
  by_cases hm : m = 0
  · rw [unpacked, dif_pos hm, UnpackedFloat.pack, packedZero, toNat_packComponents,
      toNat_toBitVec_signOf, hm]
    rfl
  · have hbiased : (e + Format.exponentBias Format.binary64 +
        Format.mantissaBitsWithoutImplicit Format.binary64).toNat = (e + 1075).toNat := by
      change (e + (1023 : ℕ) + (52 : ℕ)).toNat = _
      congr 1
      omega
    have hfinite : ¬ 2 ^ Format.exponentBits Format.binary64 ≤ (e + 1075).toNat + 1 := by
      change ¬ 2 ^ 11 ≤ _
      omega
    have hlog : m.log2 + 1 = Format.mantissaBits Format.binary64 ↔ 2 ^ 52 ≤ m := by
      change m.log2 + 1 = 53 ↔ _
      have hupper := (Nat.log2_lt hm).mpr hlt
      rw [← Nat.le_log2 hm]
      omega
    rw [unpacked_of_pos (Nat.pos_of_ne_zero hm), UnpackedFloat.pack]
    simp only [hbiased, if_neg hfinite, hlog]
    split
    · rw [toNat_packComponents, toNat_toBitVec_signOf, BitVec.toNat_ofNat, BitVec.toNat_ofNat]
      congr 3
      exact Nat.mod_eq_of_lt (by change _ < 2 ^ 11; omega)
    · rw [toNat_packComponents, toNat_toBitVec_signOf, BitVec.toNat_ofNat]
      rfl

/-- What the library makes of a mantissa and an exponent is taken apart into them again. -/
theorem exists_ofFloat?_pack {m : Nat} {e : ℤ} (h : IsCanonical m e) (he : e ≤ 971)
    (negative : Bool) : ∃ b,
      Binary.ofFloat? (.ofModel (Float.Model.pack (unpacked (signOf negative) m e))) = some b ∧
        b.negative = negative ∧ b.mantissa = m ∧ b.exponent = e := by
  set x := Float.ofModel (Float.Model.pack (unpacked (signOf negative) m e))
  have hbits : x.toBits.toNat = _ := toNat_pack h he negative
  obtain ⟨hlt, hleast, hfull⟩ := h
  have hsignLt : (if negative then 1 else 0) < 2 := by cases negative <;> decide
  have hbiasedLt : (if 2 ^ 52 ≤ m then (e + 1075).toNat else 0) < 2047 := by split <;> omega
  have hsign : x.toBits.toNat / 2 ^ 63 = if negative then 1 else 0 := by omega
  have hbiased : x.toBits.toNat / 2 ^ 52 % 2 ^ 11 =
      if 2 ^ 52 ≤ m then (e + 1075).toNat else 0 := by omega
  have hfraction : x.toBits.toNat % 2 ^ 52 = m % 2 ^ 52 := by omega
  obtain ⟨b, hb⟩ := Binary.exists_ofFloat? (hbiased ▸ hbiasedLt.ne)
  obtain ⟨hnegative, -, hcases⟩ := Binary.eq_of_ofFloat? hb
  rw [hsign] at hnegative
  rw [hbiased, hfraction] at hcases
  refine ⟨b, hb, ?_, ?_⟩
  · rw [hnegative]
    cases negative <;> rfl
  · by_cases hnormal : 2 ^ 52 ≤ m
    · rw [if_pos hnormal] at hcases
      omega
    · rw [if_neg hnormal] at hcases
      omega

theorem isFinite_of_ofFloat? (h : Binary.ofFloat? x = some b) : x.isFinite = true := by
  have hunpack := unpack_of_ofFloat? h
  rw [Float.isFinite, Float.Model.isFinite, hunpack, unpacked]
  split <;> rfl

/-- The finite doubles are those with an exact value. -/
theorem exists_ofFloat?_iff : (∃ b, Binary.ofFloat? x = some b) ↔ x.isFinite = true := by
  constructor
  · rintro ⟨b, h⟩
    exact isFinite_of_ofFloat? h
  · intro h
    refine Binary.exists_ofFloat? fun hbiased => ?_
    set v : BitVec Format.binary64.numBits := x.toModel.toBits.toBitVec with hv
    have hall : unpackExponent v = -1#_ :=
      BitVec.eq_of_toNat_eq ((toNat_unpackExponent v).trans hbiased)
    rw [Float.isFinite, Float.Model.isFinite, Float.Model.unpack, UnpackedFloat.unpack, ← hv,
      if_pos hall] at h
    split at h <;> cases h

theorem neg_unpacked (negative : Bool) (m : Nat) (e : ℤ) :
    (unpacked (signOf negative) m e).neg = unpacked (signOf !negative) m e := by
  unfold unpacked
  split <;> cases negative <;> rfl

/-- The opposite of a double differs by its sign alone. -/
theorem exists_ofFloat?_neg (h : Binary.ofFloat? x = some b) :
    ∃ c, Binary.ofFloat? (-x) = some c ∧ c.negative = !b.negative ∧ c.mantissa = b.mantissa ∧
      c.exponent = b.exponent := by
  have hneg : -x =
      .ofModel (Float.Model.pack (unpacked (signOf !b.negative) b.mantissa b.exponent)) := by
    rw [← neg_unpacked, ← unpack_of_ofFloat? h]
    rfl
  obtain ⟨hcanonical, he⟩ := isCanonical_of_ofFloat? h
  rw [hneg]
  exact exists_ofFloat?_pack hcanonical he _

/-! ## Nearest doubles -/

variable {m n : Nat} {e : ℤ} {q : ℚ}

/-- The greatest finite double. -/
def greatest : ℚ := (2 ^ 53 - 1 : ℕ) * 2 ^ (971 : ℤ)

/-- No finite number up to the greatest double is rounded to a greater one. -/
theorem IsNearestDouble.le_exponent (h : IsNearestDouble m e q) (hm : IsCanonical m e)
    (hq : q ≤ greatest) : e ≤ 971 := by
  by_contra hlarge
  have hfull : 2 ^ 52 ≤ m := hm.full.resolve_left (by omega)
  have hover : greatest < m * 2 ^ e := by
    have hm' : (2 ^ 52 : ℚ) ≤ m := by exact_mod_cast hfull
    calc greatest
      _ < 2 ^ 53 * 2 ^ (971 : ℤ) :=
        mul_lt_mul_of_pos_right (by norm_num) (zpow_pos two_pos 971)
      _ = 2 ^ 52 * 2 ^ (972 : ℤ) := by
        rw [show (972 : ℤ) = 971 + 1 from rfl, zpow_add_one₀ two_ne_zero]
        ring
      _ ≤ m * 2 ^ e := mul_le_mul hm' (zpow_le_zpow_right₀ one_le_two (by omega))
        (zpow_pos two_pos _).le (Nat.cast_nonneg m)
  have hle := h.le (2 ^ 53 - 1) 971 (by norm_num) (by norm_num)
  have hgreatest : ((2 ^ 53 - 1 : ℤ) : ℚ) * 2 ^ (971 : ℤ) = greatest := by
    rw [greatest]
    norm_num
  rw [hgreatest, abs_of_pos (by linarith), abs_of_nonneg (by linarith)] at hle
  linarith

/-- A double that the library makes of a nearest mantissa and exponent. -/
theorem IsNearestDouble.exists_ofFloat? (h : IsNearestDouble m e q) (hm : IsCanonical m e)
    (hq : q ≤ greatest) : ∃ b,
      Binary.ofFloat? (.ofModel (Float.Model.pack (unpacked .positive m e))) = some b ∧
        b.negative = false ∧ IsNearestDouble b.mantissa b.exponent q := by
  obtain ⟨b, hb, hnegative, hmantissa, hexponent⟩ :=
    exists_ofFloat?_pack hm (h.le_exponent hm hq) false
  exact ⟨b, hb, hnegative, hmantissa ▸ hexponent ▸ h⟩

/-- A natural that is a double is nearest to itself alone. -/
theorem IsNearestDouble.eq_natCast (h : IsNearestDouble m e n) (hn : n < 2 ^ 53) :
    (m * 2 ^ e : ℚ) = n := by
  have hself := h.le n 0 (by exact_mod_cast hn) (by norm_num)
  rw [zpow_zero, mul_one, Int.cast_natCast, sub_self, abs_zero] at hself
  exact sub_eq_zero.mp (abs_nonpos_iff.mp hself)

theorem natCast_le_greatest (h : n < 2 ^ 53) : (n : ℚ) ≤ greatest := by
  have hn : (n : ℚ) ≤ (2 ^ 53 - 1 : ℕ) := by exact_mod_cast Nat.le_sub_one_of_lt h
  have hone : (1 : ℚ) ≤ 2 ^ (971 : ℤ) := one_le_zpow₀ one_le_two (by norm_num)
  exact hn.trans (le_mul_of_one_le_right (Nat.cast_nonneg _) hone)

theorem unpack_toFloat (hn : 0 < n) (h : n < 2 ^ 53) : ∃ m e, ∃ hm : 0 < m,
    n.toUInt64.toFloat.toModel.unpack = .finite .positive m e hm ∧ (m * 2 ^ e : ℚ) = n := by
  obtain ⟨m, e, hcanonical, hnearest, hround⟩ := round_eq hn h .positive
  obtain ⟨b, hb, hnegative, hnearest⟩ := hnearest.exists_ofFloat? hcanonical (natCast_le_greatest h)
  have hvalue := hnearest.eq_natCast h
  have hpos : 0 < b.mantissa := by
    refine Nat.pos_of_ne_zero fun hzero => ?_
    rw [hzero, Nat.cast_zero, zero_mul] at hvalue
    exact hn.ne (by exact_mod_cast hvalue)
  have hfloat : n.toUInt64.toFloat = .ofModel (Float.Model.pack (unpacked .positive m e)) := by
    have hsame : n.toUInt64.toNat = n := Nat.mod_eq_of_lt (by omega)
    have hsign : compare (n : ℤ) 0 = .gt := by
      rw [Int.compare_eq_gt]
      exact_mod_cast hn
    rw [UInt64.toFloat, Float.Model.ofUInt64, UnpackedFloat.ofUInt64, hsame, UnpackedFloat.ofNat,
      UnpackedFloat.ofInt, UnpackedFloat.normalize, hsign]
    dsimp only
    rw [Int.toNat_natCast, hround]
  refine ⟨b.mantissa, b.exponent, hpos, ?_, hvalue⟩
  rw [hfloat, unpack_of_ofFloat? hb, hnegative, unpacked_of_pos hpos]
  rfl

/-- One hundred as a double. -/
def hundred : Float := Float.ofBits 0x4059000000000000

theorem unpack_hundred : ∃ m e, ∃ hm : 0 < m,
    hundred.toModel.unpack = .finite .positive m e hm ∧ (m * 2 ^ e : ℚ) = (100 : ℕ) := by
  have hb : Binary.ofFloat? hundred = some ⟨false, 25 * 2 ^ 48, -46, false⟩ := by decide +kernel
  refine ⟨_, _, by norm_num, (unpack_of_ofFloat? hb).trans (unpacked_of_pos (by norm_num)), ?_⟩
  norm_num

/-- A number of hundredths is turned into the nearest double. -/
theorem ofScientific_hundredths (h : 0 < n) : ∃ m e, IsCanonical m e ∧
    IsNearestDouble m e (n / (100 : ℕ)) ∧
      Float.ofScientific n true 2 = .ofModel (Float.Model.pack (unpacked .positive m e)) := by
  rw [Float.ofScientific]
  split
  · rename_i hfast
    obtain ⟨m₁, e₁, hm₁, hnum, hvalue₁⟩ := unpack_toFloat h hfast.1
    obtain ⟨m₂, e₂, hm₂, hden, hvalue₂⟩ := unpack_hundred
    obtain ⟨m, e, hcanonical, hnearest, hdiv⟩ := div_eq hm₁ hm₂ .positive .positive
    refine ⟨m, e, hcanonical, hvalue₁ ▸ hvalue₂ ▸ hnearest, ?_⟩
    change Float.ofModel (Float.Model.pack (UnpackedFloat.div Format.binary64
      n.toUInt64.toFloat.toModel.unpack hundred.toModel.unpack)) = _
    rw [hnum, hden, hdiv]
    rfl
  · have hhundred : 0 < 100 := by norm_num
    obtain ⟨m, e, hcanonical, hnearest, hdiv⟩ :=
      @div_eq n 100 0 0 h hhundred .positive .positive
    rw [zpow_zero, mul_one, mul_one] at hnearest
    refine ⟨m, e, hcanonical, hnearest, ?_⟩
    have hmodel : UnpackedFloat.ofScientific Format.binary64 n (-2) = unpacked .positive m e := by
      rw [UnpackedFloat.ofScientific, dif_neg h.ne', if_neg (by decide), if_neg ?_,
        if_neg (by decide)]
      · exact hdiv
      · change ¬ (-2 : ℤ) < -(2 ^ 11 + (n.log2 : ℤ))
        omega
    exact congrArg (fun u => Float.ofModel (Float.Model.pack u)) hmodel

theorem isNearestDouble_zero (e : ℤ) : IsNearestDouble 0 e 0 := by
  refine ⟨fun k s _ _ => ?_, fun _ _ _ _ _ => .inr rfl⟩
  rw [Nat.cast_zero, zero_mul, sub_zero, abs_zero]
  exact abs_nonneg _

theorem greatest_lt : greatest < 10 ^ 342 := by
  calc greatest
    _ < 2 ^ 53 * 2 ^ (971 : ℤ) := mul_lt_mul_of_pos_right (by norm_num) (zpow_pos two_pos 971)
    _ = 2 ^ 1024 := by rw [← zpow_natCast, ← zpow_add₀ two_ne_zero, ← zpow_natCast]; rfl
    _ ≤ 2 ^ (3 * 342) := pow_le_pow_right₀ one_le_two (by norm_num)
    _ = (2 ^ 3) ^ 342 := pow_mul _ _ _
    _ ≤ 10 ^ 342 := pow_le_pow_left₀ (by norm_num) (by norm_num) _

theorem length_toDigits_le (hn : (n : ℚ) / (100 : ℕ) ≤ greatest) :
    (Nat.toDigits 10 n).length ≤ 344 := by
  rw [div_le_iff₀ (by norm_num)] at hn
  have hlt : (n : ℚ) < 10 ^ 344 := by
    calc (n : ℚ)
      _ ≤ greatest * (100 : ℕ) := hn
      _ < 10 ^ 342 * (100 : ℕ) := mul_lt_mul_of_pos_right greatest_lt (by norm_num)
      _ = 10 ^ 344 := by rw [pow_add 10 342 2]; norm_num
  rw [Nat.length_toDigits_le_iff (by norm_num) (by norm_num)]
  exact_mod_cast hlt

/-- The double that a number of hundredths is read as is the nearest one, and finite unless the
number is too large. -/
theorem exists_ofFloat?_nearest (hn : (n : ℚ) / (100 : ℕ) ≤ greatest) : ∃ b,
    Binary.ofFloat? (nearest n (-2)) = some b ∧ b.negative = false ∧
      IsNearestDouble b.mantissa b.exponent (n / (100 : ℕ)) := by
  rcases Nat.eq_zero_or_pos n with rfl | hpos
  · have hzero : Binary.ofFloat? (nearest 0 (-2)) = some ⟨false, 0, -1074, false⟩ := by
      decide +kernel
    rw [Nat.cast_zero, zero_div]
    exact ⟨_, hzero, rfl, isNearestDouble_zero _⟩
  · obtain ⟨m, e, hcanonical, hnearest, hfloat⟩ := ofScientific_hundredths hpos
    have hdigits := length_toDigits_le hn
    have hread : nearest n (-2) = Float.ofScientific n true 2 := by
      have hsmall : (decide (n = 0) ||
          decide (-2 + ((Nat.toDigits 10 n).length : ℤ) < -400)) = false := by
        simp only [Bool.or_eq_false_iff, decide_eq_false_iff_not]
        omega
      unfold nearest
      dsimp only
      rw [hsmall, if_neg Bool.false_ne_true, if_neg (by omega), if_pos (by norm_num)]
      rfl
    rw [hread, hfloat]
    exact hnearest.exists_ofFloat? hcanonical hn

/-! ## Exact values -/

/-- One with a sign. -/
def unitOf (negative : Bool) : ℚ := if negative then -1 else 1

/-- The exact value of a finite double. -/
def Binary.value (b : Binary) : ℚ := unitOf b.negative * (b.mantissa * 2 ^ b.exponent)

/-- True of a finite double that no other is nearer to a number than; if others are as near, its
mantissa is even. -/
structure Binary.IsNearestTo (b : Binary) (q : ℚ) : Prop where
  le : ∀ z c, Binary.ofFloat? z = some c → |b.value - q| ≤ |c.value - q|
  even_of_eq : ∀ z c, Binary.ofFloat? z = some c → |b.value - q| = |c.value - q| →
    c.value = b.value ∨ b.mantissa % 2 = 0

theorem abs_unitOf_mul_sub (negative : Bool) (x y : ℚ) :
    |unitOf negative * x - unitOf negative * y| = |x - y| := by
  rw [← mul_sub, abs_mul]
  cases negative <;> simp [unitOf]

/-- The value of a double by its mantissa, which has a sign if the value is of the other one. -/
theorem Binary.exists_value_eq (h : Binary.ofFloat? x = some b) (negative : Bool) : ∃ k : ℤ,
    k < 2 ^ 53 ∧ -1074 ≤ b.exponent ∧ b.value = unitOf negative * (k * 2 ^ b.exponent) := by
  obtain ⟨⟨hlt, hexponent, -⟩, -⟩ := isCanonical_of_ofFloat? h
  have hlt : (b.mantissa : ℤ) < 2 ^ 53 := by exact_mod_cast hlt
  by_cases hsign : b.negative = negative
  · exact ⟨b.mantissa, hlt, hexponent, by rw [Binary.value, hsign, Int.cast_natCast]⟩
  · refine ⟨-b.mantissa, by omega, hexponent, ?_⟩
    rw [Binary.value, Int.cast_neg, Int.cast_natCast]
    cases hb : b.negative <;> cases negative <;> simp_all [unitOf]

theorem Binary.isNearestTo (h : IsNearestDouble b.mantissa b.exponent q) :
    b.IsNearestTo (unitOf b.negative * q) := by
  constructor
  · intro z c hc
    obtain ⟨k, hk, hs, hvalue⟩ := Binary.exists_value_eq hc b.negative
    rw [hvalue, Binary.value, abs_unitOf_mul_sub, abs_unitOf_mul_sub]
    exact h.le k c.exponent hk hs
  · intro z c hc heq
    obtain ⟨k, hk, hs, hvalue⟩ := Binary.exists_value_eq hc b.negative
    rw [hvalue, Binary.value, abs_unitOf_mul_sub, abs_unitOf_mul_sub] at heq
    rw [hvalue, Binary.value]
    exact (h.even_of_eq k c.exponent hk hs heq).imp_left (congrArg (unitOf b.negative * ·))

end ChartBoard.Number
