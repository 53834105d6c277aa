import ChartBoard.Datum.Reading
import ChartBoard.Proofs.Result

/-!
# Labels and numbers that are final

* `label_eq_empty_iff` says what has no label, `label_ne_empty` that what reads as true has one.
* `numberOrZero_eq_ok` says that a number read from a value reads as itself.
-/

namespace ChartBoard.Number

theorem floatText_ne_empty (x : Float) : floatText x ≠ "" := by
  unfold floatText Layout.text
  cases Binary.ofFloat? x with
  | none =>
    simp only
    split
    · decide
    · split <;> simp [Layout.display]
  | some b =>
    have hmagnitude : Layout.display.magnitudeText b.shortest ≠ "" := by
      unfold Layout.magnitudeText Layout.exponentText
      simp only
      split
      · split
        · simp [Layout.display]
        · split <;> simp
      · split <;> simp
    simp only
    split
    · split <;> simp [hmagnitude]
    · split <;> simp [hmagnitude]

theorem Decimal.magnitudeText_ne_empty (coefficient : Nat) (exponent : Int) :
    magnitudeText coefficient exponent ≠ "" := by
  unfold magnitudeText
  extract_lets digits left point body
  have hdigits : digits ≠ [] := Nat.toDigits_ne_nil
  have hbody : body ≠ "" := by
    unfold body
    split
    · simp
    · split <;> simp [hdigits]
  split <;> simp [hbody]

theorem Decimal.text_ne_empty (d : Decimal) : d.text ≠ "" := by
  cases d with
  | finite negative coefficient exponent => simp [text, magnitudeText_ne_empty]
  | infinite negative => cases negative <;> decide
  | notANumber negative signalling payload => cases signalling <;> simp [text]

end ChartBoard.Number

namespace ChartBoard.Datum

open Number Calendar

theorem append_ne_empty {s t : String} (h : t ≠ "") : s ++ t ≠ "" := fun hempty =>
  h (String.append_eq_empty_iff.mp hempty).2

theorem nested_ne_empty (v : Datum) : v.nested ≠ "" := by
  cases v with
  | null => decide
  | bool b => cases b <;> decide
  | int n =>
    have hdigits : ∀ m : Nat, m.repr ≠ "" := fun m => Nat.repr_ne_empty
    cases n with
    | ofNat m => exact hdigits m
    | negSucc m => exact append_ne_empty (hdigits _)
  | float x => exact floatText_ne_empty x
  | text s =>
    have hquote : ∀ quote : Char, quote.toString ≠ "" := by simp
    exact append_ne_empty (hquote _)
  | list items => exact append_ne_empty (by decide)
  | object members => exact append_ne_empty (by decide)
  | decimal d => exact append_ne_empty (by decide)
  | date d => exact append_ne_empty (by decide)
  | moment m => exact append_ne_empty (by decide)
  | duration d => exact append_ne_empty (by decide)
  | clock c => exact append_ne_empty (by decide)

/-- Only null and the empty text have no label. -/
theorem label_eq_empty_iff {v : Datum} : v.label = "" ↔ v = null ∨ v = text "" := by
  refine ⟨fun h => ?_, by rintro (rfl | rfl) <;> rfl⟩
  cases v with
  | null => exact .inl rfl
  | text s => exact .inr (congrArg text h)
  | decimal d => exact absurd h d.text_ne_empty
  | date d => simp [label, isNull, display, Date.iso] at h
  | moment m => simp [label, isNull, display, Moment.iso, Date.iso] at h
  | duration d => simp [label, isNull, display, Duration.text] at h
  | clock c => simp [label, isNull, display, Clock.iso] at h
  | bool b => exact absurd h (nested_ne_empty (.bool b))
  | int n => exact absurd h (nested_ne_empty (.int n))
  | float x => exact absurd h (nested_ne_empty (.float x))
  | list items => exact absurd h (nested_ne_empty (.list items))
  | object members => exact absurd h (nested_ne_empty (.object members))

theorem label_ne_empty {v : Datum} (h : v.truthy = true) : v.label ≠ "" := by
  rw [ne_eq, label_eq_empty_iff]
  rintro (rfl | rfl) <;> cases h

theorem truthy_orElse {v w : Datum} (h : w.truthy = true) : (v.orElse w).truthy = true := by
  unfold Datum.orElse
  split
  · assumption
  · exact h

theorem finite?_of_finite? {x y : Float} (h : finite? y = some x) : finite? x = some x := by
  unfold finite? at h
  split at h
  · rename_i hfinite
    obtain rfl := Option.some.inj h
    exact if_pos hfinite
  · cases h

theorem finite?_of_number? {v : Datum} {x : Float} (h : v.number? = .ok (some x)) :
    finite? x = some x := by
  have hfound : ∀ y : Option Float, y.bind finite? = some x → finite? x = some x := by
    intro y hy
    obtain ⟨z, -, hz⟩ := Option.bind_eq_some_iff.mp hy
    exact finite?_of_finite? hz
  cases v with
  | null => cases h
  | bool b =>
    obtain rfl := Option.some.inj (Except.ok.inj h)
    cases b
    · exact if_pos (by decide)
    · exact if_pos (by decide)
  | int n =>
    unfold number? at h
    dsimp only at h
    generalize ofInt? n = double? at h
    cases double? with
    | none => cases h
    | some y => exact finite?_of_finite? (Except.ok.inj h)
  | float y => exact finite?_of_finite? (Except.ok.inj h)
  | decimal d => exact hfound d.toFloat? (Except.ok.inj h)
  | text _ | list _ | object _ | date _ | moment _ | duration _ | clock _ =>
    exact hfound _ (Except.ok.inj h)

theorem number?_zero : (int 0).number? = .ok (some 0.0) := by
  have hdouble : ofInt? 0 = some (Float.ofInt 0) := by
    have hsmall : (0 : Int).natAbs < overflowBound := by decide +kernel
    rw [ofInt?, if_pos hsmall]
  have hfinite : finite? (Float.ofInt 0) = some (Float.ofInt 0) := if_pos (by decide)
  unfold number?
  dsimp only
  rw [hdouble]
  exact congrArg Except.ok hfinite

theorem numberOrZero_zero : (int 0).numberOrZero = .ok (int 0) := by
  have hequal : ((0.0 : Float) == 0) = true := by decide
  rw [numberOrZero, number?_zero]
  exact congrArg Except.ok (if_pos hequal)

/-- A number read from a value is a double or the integer zero, and reads as itself. -/
theorem numberOrZero_eq_ok {v w : Datum} (h : v.numberOrZero = .ok w) :
    ((∃ x, w = float x) ∨ w = int 0) ∧ w.numberOrZero = .ok w := by
  obtain ⟨found, hfound, hw⟩ := Result.bind_eq_ok.mp h
  cases found with
  | none =>
    obtain rfl := Except.ok.inj hw
    exact ⟨Or.inr rfl, numberOrZero_zero⟩
  | some x =>
    obtain rfl := Except.ok.inj hw
    by_cases hzero : (x == 0) = true
    · rw [if_pos hzero]
      exact ⟨Or.inr rfl, numberOrZero_zero⟩
    · have hread : (float x).number? = .ok (some x) :=
        congrArg Except.ok (finite?_of_number? hfound)
      rw [if_neg hzero]
      refine ⟨Or.inl ⟨x, rfl⟩, ?_⟩
      simp [numberOrZero, hread, hzero, bind, Except.bind, pure, Except.pure]

end ChartBoard.Datum
