import ChartBoard.Proofs.Chart.Amount
import ChartBoard.Proofs.Number.Double
import ChartBoard.Proofs.Number.Padded
import ChartBoard.Proofs.Sql.Cleaning
import ChartBoard.Proofs.Text.Blank
import ChartBoard.Seed.Currency

/-!
# Amounts of money are read back

Whatever an amount, its text without the dress is the amount with two places, and the number that
this text is read as is the nearest double.

* `isNearest_hundredths` says how an amount is rounded, `hundredths_le` that this leads to no
  infinite number.
* `without_currencyText` is what is left of the text, whatever removes the dollar sign and the
  commas; `readNumber?_fixedText` is what that is read as.
* `currencyText_reads_back` puts them together.
-/

namespace ChartBoard.Seed

open Number

variable {x : Float} {b : Binary} {n : Nat}

/-! ## Hundredths -/

theorem unitOf_abs_mul (negative : Bool) {q : ℚ} (h : 0 ≤ q) : |unitOf negative * q| = q := by
  rw [abs_mul, abs_of_nonneg h]
  cases negative <;> simp [unitOf]

theorem abs_value (b : Binary) : |b.value| = b.mantissa * 2 ^ b.exponent :=
  unitOf_abs_mul _ (mul_nonneg (Nat.cast_nonneg _) (zpow_pos two_pos _).le)

/-- The magnitude of a double as a quotient of naturals. -/
theorem num_div_den (b : Binary) : (b.num : ℚ) / b.den = |b.value| := by
  have hpower (k : Nat) : ((power 2 k : ℕ) : ℚ) = 2 ^ (k : ℤ) := by
    rw [zpow_natCast]
    exact_mod_cast rfl
  rw [abs_value, Binary.num, Binary.den, Nat.cast_mul, hpower, hpower, mul_div_assoc,
    ← zpow_sub₀ two_ne_zero]
  congr 2
  omega

/-- An amount is rounded to the nearest number of hundredths. -/
theorem isNearest_hundredths (b : Binary) : IsNearest b.hundredths (100 * |b.value|) := by
  have hden : 0 < b.den := Nat.pow_pos two_pos
  have hnearest := isNearest_roundDiv (b.num * 100) hden
  rwa [Nat.cast_mul, mul_comm (b.num : ℚ), mul_div_assoc, num_div_den, Nat.cast_ofNat] at hnearest

/-- The hundredths of the greatest double are a whole number. -/
theorem exists_intCast_eq_greatest : ∃ j : ℤ, (j : ℚ) = 100 * greatest := by
  obtain ⟨j, hj⟩ := exists_mul_zpow_eq (k := 2 ^ 53 - 1) (t := 0) (s := 971) (by norm_num)
  refine ⟨100 * j, ?_⟩
  rw [zpow_zero, mul_one] at hj
  rw [Int.cast_mul, Int.cast_ofNat, ← hj, greatest]
  norm_num

/-- No finite amount is rounded to more than the greatest double. -/
theorem hundredths_le (h : Binary.ofFloat? x = some b) :
    (b.hundredths : ℚ) / (100 : ℕ) ≤ greatest := by
  obtain ⟨⟨hlt, -, -⟩, hexponent⟩ := isCanonical_of_ofFloat? h
  have hle : |b.value| ≤ greatest := by
    rw [abs_value, greatest]
    exact mul_le_mul (by exact_mod_cast Nat.le_sub_one_of_lt hlt)
      (zpow_le_zpow_right₀ one_le_two hexponent) (zpow_pos two_pos _).le (Nat.cast_nonneg _)
  obtain ⟨j, hj⟩ := exists_intCast_eq_greatest
  have hnearest := ((isNearest_hundredths b).le j).1
  have hbelow : 100 * |b.value| ≤ j := by linarith
  rw [abs_of_nonneg (sub_nonneg.mpr hbelow)] at hnearest
  have hself := le_abs_self ((b.hundredths : ℚ) - 100 * |b.value|)
  rw [div_le_iff₀ (by norm_num), Nat.cast_ofNat]
  linarith

/-! ## Plain characters -/

/-- True of the characters that numbers with places are written with. -/
def IsPlain (c : Char) : Prop := c.isDigit = true ∨ c = '.' ∨ c = '-'

variable {c : Char}

/-- What is decided of the digits, the point and the minus sign holds of all plain characters. -/
theorem IsPlain.of_all (h : IsPlain c) {p : Char → Bool}
    (hall : ∀ c ∈ digitCharacters ++ ['.', '-'], p c = true) : p c = true := by
  rcases h with hdigit | rfl | rfl
  · exact hall c (List.mem_append_left _ (mem_digitCharacters hdigit))
  · exact hall '.' (by decide)
  · exact hall '-' (by decide)

theorem IsPlain.not_noise (h : IsPlain c) : isNumericNoise c = false := by
  simpa using h.of_all (p := (!isNumericNoise ·)) (Text.forall_mem_of_all (by decide))

theorem IsPlain.not_dress (h : IsPlain c) : ['$', ',', ' '].contains c = false := by
  simpa using h.of_all (p := (! ['$', ',', ' '].contains ·)) (Text.forall_mem_of_all (by decide))

theorem IsPlain.not_space (h : IsPlain c) : isSpace c = false := by
  simpa using h.of_all (p := (!isSpace ·)) (Text.forall_mem_of_all (by decide))

theorem isDigit_of_mem_toDigits (h : c ∈ Nat.toDigits 10 n) : c.isDigit = true :=
  Nat.isDigit_of_mem_toDigits (by decide) (by decide) h

/-! ## What is removed -/

theorem filter_grouped {p : Char → Bool} {digits : List Char} (hcomma : p ',' = true)
    (hdigits : ∀ c ∈ digits, p c = false) : (grouped digits).filter (!p ·) = digits := by
  have hpart {pair : Char × Nat} (hpair : pair ∈ digits.zipIdx) :
      (if pair.2 ≠ 0 && (digits.length - pair.2) % 3 == 0 then [',', pair.1] else [pair.1]).filter
        (!p ·) = [pair.1] := by
    have hc : p pair.1 = false := hdigits _ (List.fst_mem_of_mem_zipIdx hpair)
    split <;> simp [hcomma, hc]
  calc (grouped digits).filter (!p ·)
    _ = digits.zipIdx.flatMap fun pair => [pair.1] := by
      rw [grouped, List.filter_flatMap]
      exact List.flatMap_congr fun pair hpair => hpart hpair
    _ = digits := by rw [← List.map_eq_flatMap, List.zipIdx_map_fst]

/-- The sign of a number. -/
def signChars (negative : Bool) : List Char := if negative then ['-'] else []

/-- The characters of a number of hundredths with two places. -/
def placesChars (n : Nat) : List Char :=
  Nat.toDigits 10 (n / 100) ++ '.' :: (padded 2 (n % 100)).toList

theorem isPlain_of_mem_signChars {negative : Bool} (h : c ∈ signChars negative) : IsPlain c := by
  cases negative with
  | false => cases h
  | true => exact .inr (.inr (List.mem_singleton.mp h))

theorem isPlain_of_mem_placesChars (h : c ∈ placesChars n) : IsPlain c := by
  rcases List.mem_append.mp h with hwhole | hrest
  · exact .inl (isDigit_of_mem_toDigits hwhole)
  · rcases List.mem_cons.mp hrest with rfl | hpart
    · exact .inr (.inl rfl)
    · exact .inl (isDigit_of_mem_padded hpart)

theorem toList_fixedText (h : Binary.ofFloat? x = some b) :
    (fixedText false x).toList = signChars b.negative ++ placesChars b.hundredths := by
  have hpoint : ".".toList = ['.'] := by decide
  have hsign : (if b.negative then "-" else "").toList = signChars b.negative := by
    cases b.negative <;> rfl
  rw [fixedText, h]
  simp only [placesText, String.toList_append, String.toList_ofList, hsign, hpoint, placesChars,
    Bool.false_eq_true, if_false, List.append_assoc, List.singleton_append]

theorem toList_currencyText (h : Binary.ofFloat? x = some b) :
    (currencyText x).toList = '$' :: (signChars b.negative ++
      (grouped (Nat.toDigits 10 (b.hundredths / 100)) ++
        '.' :: (padded 2 (b.hundredths % 100)).toList)) := by
  have hpoint : ".".toList = ['.'] := by decide
  have hdollar : "$".toList = ['$'] := by decide
  have hsign : (if b.negative then "-" else "").toList = signChars b.negative := by
    cases b.negative <;> rfl
  rw [currencyText, fixedText, h]
  simp only [placesText, String.toList_append, String.toList_ofList, hsign, hpoint, hdollar,
    if_true, List.append_assoc, List.singleton_append]

/-- Without the dollar sign and the commas an amount is a plain number. -/
theorem without_currencyText (h : Binary.ofFloat? x = some b) {p : Char → Bool}
    (hdollar : p '$' = true) (hcomma : p ',' = true) (hplain : ∀ c, IsPlain c → p c = false) :
    Text.without p (currencyText x) = fixedText false x := by
  have hkept {cs : List Char} (hcs : ∀ c ∈ cs, IsPlain c) : cs.filter (!p ·) = cs :=
    List.filter_eq_self.mpr fun c hc => by rw [hplain c (hcs c hc)]; rfl
  have hwhole : (grouped (Nat.toDigits 10 (b.hundredths / 100))).filter (!p ·) =
      Nat.toDigits 10 (b.hundredths / 100) :=
    filter_grouped hcomma fun c hc => hplain c (.inl (isDigit_of_mem_toDigits hc))
  have hrest : ('.' :: (padded 2 (b.hundredths % 100)).toList).filter (!p ·) =
      '.' :: (padded 2 (b.hundredths % 100)).toList :=
    hkept fun c hc => isPlain_of_mem_placesChars (n := b.hundredths) (List.mem_append_right _ hc)
  rw [Text.without, toList_currencyText h, List.filter_cons_of_neg (by simp [hdollar]),
    List.filter_append, List.filter_append, hwhole, hrest,
    hkept fun c hc => isPlain_of_mem_signChars hc]
  apply String.toList_inj.mp
  rw [String.toList_ofList, toList_fixedText h, placesChars]

/-! ## What is read -/

theorem digitValue?_of_isDigit (h : c.isDigit = true) :
    Text.digitValue? c = some (c.toNat - 48) := by
  have hbounds := toNat_mem_of_isDigit h
  rw [Text.digitValue?, if_pos (by omega), if_pos h]

/-- Digits are read up to whatever else follows them. -/
theorem readDigits_append (digits rest : List Char) (hdigits : ∀ c ∈ digits, c.isDigit = true)
    (hrest : ∀ c ∈ rest.head?, Text.digitValue? c = none ∧ c ≠ '_') (run : DigitRun) :
    readDigits run (digits ++ rest) =
      (⟨Nat.ofDigitChars 10 digits run.value, run.count + digits.length⟩, rest) := by
  induction digits generalizing run with
  | nil =>
    cases rest with
    | nil => rfl
    | cons c rest =>
      obtain ⟨hvalue, hunderscore⟩ := hrest c rfl
      rw [List.nil_append, readDigits.eq_def]
      simp [hvalue, hunderscore]
  | cons c digits ih =>
    rw [List.cons_append, readDigits.eq_def]
    dsimp only
    rw [digitValue?_of_isDigit (hdigits c List.mem_cons_self)]
    dsimp only
    rw [ih fun d hd => hdigits d (List.mem_cons_of_mem c hd), Nat.ofDigitChars_cons,
      List.length_cons, Nat.mul_comm 10, Nat.add_right_comm, Nat.add_assoc]
    rfl

/-- A number with two places is read as its hundredths. -/
theorem readMagnitude?_placesChars (negative : Bool) (n : Nat) :
    readMagnitude? negative (placesChars n) = some (.finite negative n (-2)) := by
  have hpoint : Text.digitValue? '.' = none ∧ '.' ≠ '_' := by decide
  have hwhole := readDigits_append (Nat.toDigits 10 (n / 100))
    ('.' :: (padded 2 (n % 100)).toList) (fun _ hc => isDigit_of_mem_toDigits hc)
    (fun c hc => Option.mem_some_iff.mp hc ▸ hpoint) ⟨0, 0⟩
  have hpart := readDigits_append (padded 2 (n % 100)).toList []
    (fun _ hc => isDigit_of_mem_padded hc) (fun _ hc => nomatch hc) ⟨0, 0⟩
  rw [Nat.ofDigitChars_ten_toDigits] at hwhole
  rw [List.append_nil, ofDigitChars_padded, length_padded (by decide) (by omega)] at hpart
  have hall : n / 100 * power 10 2 + n % 100 = n := Nat.div_add_mod' n 100
  rw [readMagnitude?, placesChars, hwhole]
  simp only [hpart, Nat.zero_add, hall]
  rw [if_neg (by omega)]
  rfl

theorem withoutSpace_of_forall {cs : List Char} (h : ∀ c ∈ cs, isSpace c = false) :
    withoutSpace cs = cs := by
  rw [withoutSpace, Text.dropWhile_of_forall h, Text.dropEndWhile_of_forall h]

/-- A text with a point is none of the words that stand for numbers. -/
theorem not_word {cs : List Char} (h : '.' ∈ cs) :
    String.ofList (cs.map Char.toLower) ∉ infinityWords ∧
      (String.ofList (cs.map Char.toLower) == "nan") = false := by
  have hmem : '.' ∈ (String.ofList (cs.map Char.toLower)).toList := by
    rw [String.toList_ofList]
    exact List.mem_map.mpr ⟨'.', h, by decide⟩
  have hwords : ∀ word ∈ infinityWords, '.' ∉ word.toList := by decide
  refine ⟨fun hword => hwords _ hword hmem, ?_⟩
  rw [beq_eq_false_iff_ne]
  intro heq
  rw [heq] at hmem
  exact absurd hmem (by decide)

theorem readSign_of_isDigit (h : c.isDigit = true) (cs : List Char) :
    readSign (c :: cs) = (false, c :: cs) := by
  unfold readSign
  split
  · rename_i heq
    obtain ⟨rfl, -⟩ := List.cons.inj heq
    cases h
  · rename_i heq
    obtain ⟨rfl, -⟩ := List.cons.inj heq
    cases h
  · rfl

theorem readSign_chars (negative : Bool) (n : Nat) :
    readSign (signChars negative ++ placesChars n) = (negative, placesChars n) := by
  cases negative with
  | true => rfl
  | false =>
    have hne : Nat.toDigits 10 (n / 100) ≠ [] := Nat.toDigits_ne_nil
    obtain ⟨c, cs, hdigits⟩ := List.exists_cons_of_ne_nil hne
    have hc : c.isDigit = true := isDigit_of_mem_toDigits (hdigits ▸ List.mem_cons_self)
    rw [placesChars, hdigits]
    exact readSign_of_isDigit hc _

theorem readNumber?_fixedText (h : Binary.ofFloat? x = some b) :
    readNumber? (fixedText false x) = some (.finite b.negative b.hundredths (-2)) := by
  have hspace : ∀ c ∈ signChars b.negative ++ placesChars b.hundredths, isSpace c = false := by
    rw [List.forall_mem_append]
    exact ⟨fun c hc => (isPlain_of_mem_signChars hc).not_space,
      fun c hc => (isPlain_of_mem_placesChars hc).not_space⟩
  have hpoint : '.' ∈ placesChars b.hundredths := List.mem_append_right _ List.mem_cons_self
  obtain ⟨hinfinity, hnan⟩ := not_word hpoint
  rw [readNumber?, toList_fixedText h, withoutSpace_of_forall hspace, readSign_chars]
  dsimp only
  rw [if_neg hinfinity, hnan, if_neg Bool.false_ne_true, readMagnitude?_placesChars]

/-! ## Main result -/

/-- A finite number of hundredths is turned into the nearest double. -/
theorem exists_toFloat? (negative : Bool) (hn : (n : ℚ) / (100 : ℕ) ≤ greatest) : ∃ y c,
    Decimal.toFloat? (.finite negative n (-2)) = some y ∧ Binary.ofFloat? y = some c ∧
      c.negative = negative ∧ c.IsNearestTo (unitOf negative * (n / 100)) := by
  obtain ⟨c, hc, hsign, hnearest⟩ := exists_ofFloat?_nearest hn
  rw [Nat.cast_ofNat] at hnearest
  cases negative with
  | false => exact ⟨_, c, rfl, hc, hsign, hsign ▸ Binary.isNearestTo hnearest⟩
  | true =>
    obtain ⟨d, hd, hflipped, hmantissa, hexponent⟩ := exists_ofFloat?_neg hc
    have hflipped : d.negative = true := by rw [hflipped, hsign, Bool.not_false]
    rw [← hmantissa, ← hexponent] at hnearest
    exact ⟨_, d, rfl, hd, hflipped, hflipped ▸ Binary.isNearestTo hnearest⟩

/-- An amount is written so that a statement and the rows are left with the same plain text, which
is the amount rounded to the nearest hundredth, ties to even.  It is read as the double nearest to
what this text says. -/
theorem currencyText_reads_back (hx : x.isFinite = true) : ∃ b hundredths,
    Binary.ofFloat? x = some b ∧ IsNearest hundredths (100 * |b.value|) ∧
    fixedText false x = (if b.negative then "-" else "") ++
      String.ofList (Nat.toDigits 10 (hundredths / 100)) ++ "." ++ padded 2 (hundredths % 100) ∧
    Text.without isNumericNoise (currencyText x) = fixedText false x ∧
    (∀ (row : Sql.Expr → Option String) (e : Sql.Expr), e.textIn row = some (currencyText x) →
      e.numeric.castText row = some (fixedText false x)) ∧
    ∃ y c, (Datum.text (currencyText x)).number = .ok y ∧ Binary.ofFloat? y = some c ∧
      c.negative = b.negative ∧ c.IsNearestTo (unitOf b.negative * (hundredths / 100)) := by
  obtain ⟨b, hb⟩ := exists_ofFloat?_iff.mpr hx
  have hnoise : Text.without isNumericNoise (currencyText x) = fixedText false x :=
    without_currencyText hb (by decide) (by decide) fun _ hc => hc.not_noise
  obtain ⟨y, c, hy, hc, hsign, hnearest⟩ := exists_toFloat? b.negative (hundredths_le hb)
  refine ⟨b, b.hundredths, hb, isNearest_hundredths b, ?_, hnoise, fun row e he => ?_,
    y, c, ?_, hc, hsign, hnearest⟩
  · rw [fixedText, hb]
    simp only [placesText, String.append_assoc, Bool.false_eq_true, if_false]
  · rw [Sql.castText_numeric he]
    exact congrArg some (without_currencyText hb (by decide) (by decide) fun _ hc => hc.not_dress)
  · refine Datum.number_of_number? ?_
    have hread : floatOfText? (fixedText false x) = some y := by
      rw [floatOfText?, readNumber?_fixedText hb, Option.bind_some, hy]
    change Except.ok (finiteOfText? (currencyText x)) = _
    rw [finiteOfText?, hnoise, hread, Option.bind_some, finite?,
      if_pos (isFinite_of_ofFloat? hc)]

theorem currencyText_reads_back_millions :
    currencyText (-1234567.5) = "$-1,234,567.50" ∧
      (∀ (row : Sql.Expr → Option String) (e : Sql.Expr),
        e.textIn row = some (currencyText (-1234567.5)) →
          e.numeric.castText row = some "-1234567.50") ∧
      ∃ y c, (Datum.text (currencyText (-1234567.5))).number = .ok y ∧
        Binary.ofFloat? y = some c ∧ c.negative = true := by
  have hvalue : Binary.ofFloat? (-1234567.5) = some ⟨true, 5302427037204480, -32, false⟩ := by
    decide +kernel
  have hplain : fixedText false (-1234567.5) = "-1234567.50" := by decide +kernel
  obtain ⟨b, hundredths, hb, -, -, -, hcast, y, c, hy, hc, hsign, -⟩ :=
    currencyText_reads_back (isFinite_of_ofFloat? hvalue)
  obtain rfl := Option.some.inj (hvalue.symm.trans hb)
  exact ⟨by decide +kernel, hplain ▸ hcast, y, c, hy, hc, hsign⟩

end ChartBoard.Seed
