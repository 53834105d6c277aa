import ChartBoard.Chart.Amount
import ChartBoard.Proofs.Datum.Label

/-!
# Amounts that are read again

The numbers that a chart is described with are read once more when it is drawn.

* `Datum.finite?_of_number` says that a number which was read is finite, `Datum.number_float` that
  such a number is read as itself.
* `Amount.number_toDatum` says the same of amounts.
* `SameNumber` is equality by value, `Amount.exists_sameNumber` says that an amount is read as the
  same number once it is tidied up.
-/

namespace ChartBoard

/-- Numbers of equal value; the sign of a zero does not count. -/
def SameNumber (x y : Float) : Prop := x = y ∨ (x == y) = true

namespace Datum

variable {v : Datum} {x : Float}

theorem number_of_number? (h : v.number? = .ok (some x)) : v.number = .ok x := by
  rw [number, h]
  rfl

theorem number_eq_ok (h : v.number = .ok x) : v.number? = .ok (some x) ∨
    v.number? = .ok none ∧ x = 0.0 := by
  obtain ⟨found, hfound, hx⟩ := Result.bind_eq_ok.mp h
  obtain rfl := Result.pure_eq_ok.mp hx
  cases found with
  | none => exact .inr ⟨hfound, rfl⟩
  | some y => exact .inl hfound

theorem finite?_of_number (h : v.number = .ok x) : finite? x = some x := by
  rcases number_eq_ok h with hread | ⟨-, rfl⟩
  · exact finite?_of_number? hread
  · exact if_pos (by decide)

theorem isFinite_of_finite? {y : Float} (h : finite? y = some x) : x.isFinite = true := by
  unfold finite? at h
  split at h
  · rename_i hfinite
    rwa [← Option.some.inj h]
  · cases h

theorem number_float (h : finite? x = some x) : (float x).number = .ok x :=
  number_of_number? (congrArg Except.ok h)

theorem number_zero : (int 0).number = .ok 0.0 := number_of_number? number?_zero

theorem numberOrZero_of_none (h : v.number? = .ok none) : v.numberOrZero = .ok (int 0) := by
  rw [numberOrZero, h]
  rfl

theorem numberOrZero_of_some (h : v.number? = .ok (some x)) :
    v.numberOrZero = .ok (if x == 0 then int 0 else float x) := by
  rw [numberOrZero, h]
  rfl

theorem number_of_numberOrZero {w : Datum} (h : v.numberOrZero = .ok w) :
    ∃ x y, v.number = .ok x ∧ w.number = .ok y ∧ SameNumber x y := by
  obtain ⟨found, hfound, hw⟩ := Result.bind_eq_ok.mp h
  cases found with
  | none =>
    obtain rfl := Except.ok.inj hw
    have hnumber : v.number = .ok 0.0 := by
      rw [number, hfound]
      rfl
    exact ⟨0.0, 0.0, hnumber, number_zero, .inl rfl⟩
  | some x =>
    obtain rfl := Except.ok.inj hw
    by_cases hzero : (x == 0) = true
    · rw [if_pos hzero]
      exact ⟨x, 0.0, number_of_number? hfound, number_zero, .inr hzero⟩
    · rw [if_neg hzero]
      exact ⟨x, x, number_of_number? hfound, number_float (finite?_of_number? hfound), .inl rfl⟩

end Datum

namespace Chart

/-- A number that is finite, or none. -/
def Amount.IsFinite (a : Amount) : Prop := ∀ x ∈ a, x.isFinite = true

theorem Amount.isFinite_some {x : Float} : Amount.IsFinite (some x) ↔ x.isFinite = true := by
  simp [IsFinite]

theorem Amount.number_toDatum {a : Amount} (h : a.IsFinite) : a.toDatum.number = .ok a.toFloat := by
  cases a with
  | none => exact Datum.number_zero
  | some x => exact Datum.number_float (if_pos (h x rfl))

/-- What is left of an amount once it is tidied up: no zero, and nothing that is not finite. -/
def Amount.tidied (a : Amount) : Amount :=
  match a.bind finite? with
  | some x => if x == 0 then none else some x
  | none => none

theorem Amount.numberOrZero_toDatum (a : Amount) :
    a.toDatum.numberOrZero = .ok a.tidied.toDatum := by
  cases a with
  | none => exact Datum.numberOrZero_zero
  | some x =>
    have hread : (Datum.float x).number? = .ok (finite? x) := rfl
    unfold tidied
    rw [Option.bind_some]
    cases hfinite : finite? x with
    | none => exact Datum.numberOrZero_of_none (hread.trans (congrArg _ hfinite))
    | some y =>
      refine (Datum.numberOrZero_of_some (hread.trans (congrArg _ hfinite))).trans ?_
      dsimp only
      split <;> rfl

/-- A tidied amount is read as the same number. -/
theorem Amount.exists_sameNumber (a : Amount) : ∃ x y,
    a.toDatum.number = .ok x ∧ a.tidied.toDatum.number = .ok y ∧ SameNumber x y :=
  Datum.number_of_numberOrZero a.numberOrZero_toDatum

end Chart

end ChartBoard
