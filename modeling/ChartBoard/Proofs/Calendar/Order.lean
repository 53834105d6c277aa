import ChartBoard.Proofs.Calendar.Reading
import Mathlib.Data.Nat.ModEq

/-!
# Dates in their order

Days are counted from the first of year 1.  The count goes by year first, then by month, then by
day.

* `daysBeforeYear_succ` and `daysBeforeMonth_succ` say that years and months follow each other
  without a gap, `dayOfYear_mem` that a day stays within its year.
* `ordinal_lt_iff` is the order of days by their parts.
-/

namespace ChartBoard.Calendar

/-- The number of days of a year. -/
def daysInYear (year : Nat) : Nat := if isLeap year then 366 else 365

namespace Date

theorem daysBeforeYear_succ {year : Nat} (h : 1 ≤ year) :
    daysBeforeYear (year + 1) = daysBeforeYear year + daysInYear year := by
  obtain ⟨y, rfl⟩ := Nat.exists_eq_add_of_le' h
  -- what 400 divides, 100 divides, and what 100 divides, 4 divides
  have hcentury : (y + 1) % 400 = 0 → (y + 1) % 100 = 0 := by omega
  have hfour : (y + 1) % 100 = 0 → (y + 1) % 4 = 0 := by omega
  have hpast : y / 100 ≤ y / 4 := by omega
  simp only [daysBeforeYear, daysInYear, isLeap, Nat.add_sub_cancel, Nat.succ_div,
    Nat.dvd_iff_mod_eq_zero, Bool.and_eq_true, Bool.or_eq_true, beq_iff_eq, bne_iff_ne]
  generalize y / 4 = fours at *
  generalize y / 100 = hundreds at *
  generalize y / 400 = fourHundreds
  by_cases h4 : (y + 1) % 4 = 0
  · by_cases h100 : (y + 1) % 100 = 0
    · by_cases h400 : (y + 1) % 400 = 0
      · simp [h4, h100, h400]
        omega
      · simp [h4, h100, h400]
        omega
    · simp [h4, h100, mt hcentury h100]
      omega
  · have h100 := mt hfour h4
    simp [h4, h100, mt hcentury h100]
    omega

theorem daysBeforeMonth_succ {year month : Nat} (h : 1 ≤ month) :
    daysBeforeMonth year (month + 1) = daysBeforeMonth year month + daysInMonth year month := by
  obtain ⟨m, rfl⟩ := Nat.exists_eq_add_of_le' h
  simp only [daysBeforeMonth, Nat.add_sub_cancel, List.range_succ, List.foldl_append,
    List.foldl_cons, List.foldl_nil]

theorem daysBeforeMonth_thirteen (year : Nat) : daysBeforeMonth year 13 = daysInYear year := by
  simp only [daysBeforeMonth, daysInYear, daysInMonth, List.range_succ]
  cases isLeap year <;> rfl

theorem daysBeforeYear_add_le {y z : Nat} (hy : 1 ≤ y) (h : y < z) :
    daysBeforeYear y + daysInYear y ≤ daysBeforeYear z := by
  induction z, h using Nat.le_induction with
  | base => exact (daysBeforeYear_succ hy).ge
  | succ z hle ih =>
    rw [daysBeforeYear_succ (Nat.le_trans hy (Nat.le_of_lt hle))]
    omega

theorem daysBeforeMonth_add_le (year : Nat) {m n : Nat} (hm : 1 ≤ m) (h : m < n) :
    daysBeforeMonth year m + daysInMonth year m ≤ daysBeforeMonth year n := by
  induction n, h using Nat.le_induction with
  | base => exact (daysBeforeMonth_succ hm).ge
  | succ n hle ih =>
    rw [daysBeforeMonth_succ (Nat.le_trans hm (Nat.le_of_lt hle))]
    omega

theorem dayOfYear_mem (d : Date) :
    1 ≤ daysBeforeMonth d.year d.month + d.day ∧
      daysBeforeMonth d.year d.month + d.day ≤ daysInYear d.year := by
  have hmonth := d.month_mem
  have hday := d.day_mem
  have hover := daysBeforeMonth_add_le d.year hmonth.1 (Nat.lt_succ_of_le hmonth.2)
  rw [daysBeforeMonth_thirteen] at hover
  omega

/-- True when one date is before another by year, by month within the year or by day within the
month. -/
def Before (a b : Date) : Prop :=
  a.year < b.year ∨ a.year = b.year ∧ (a.month < b.month ∨ a.month = b.month ∧ a.day < b.day)

theorem ordinal_lt_of_before {a b : Date} (h : a.Before b) : a.ordinal < b.ordinal := by
  have ha := a.dayOfYear_mem
  have hb := b.dayOfYear_mem
  unfold ordinal
  rcases h with hyear | ⟨hyear, hmonth | ⟨hmonth, hday⟩⟩
  · have hover := daysBeforeYear_add_le a.year_mem.1 hyear
    omega
  · have hover := daysBeforeMonth_add_le a.year a.month_mem.1 hmonth
    have hday := a.day_mem
    have hday' := b.day_mem
    rw [← hyear]
    omega
  · rw [← hyear, ← hmonth]
    omega

theorem ordinal_lt_iff {a b : Date} : a.ordinal < b.ordinal ↔ a.Before b := by
  refine ⟨fun h => ?_, ordinal_lt_of_before⟩
  by_contra hnot
  -- otherwise the second is before the first, or they are one day
  have hother : b.Before a ∨ a.year = b.year ∧ a.month = b.month ∧ a.day = b.day := by
    unfold Before at hnot ⊢
    omega
  rcases hother with hbefore | ⟨hyear, hmonth, hday⟩
  · exact Nat.lt_asymm h (ordinal_lt_of_before hbefore)
  · rw [ordinal, ordinal, hyear, hmonth, hday] at h
    exact Nat.lt_irrefl _ h

end Date

end ChartBoard.Calendar
