import ChartBoard.Proofs.Sql.Labels
import ChartBoard.Widget.Compiled

/-!
# Labels of dates as filters

Charts show dates by labels, and a filter on a column of dates is given by such labels.

* `dateLabel_buckets` says that labels tell days, months and years apart, that they are in the order
  of time, and that the condition for one label is met by the dates that have it.
-/

namespace ChartBoard.Widget

open Calendar Sql

/-- Two dates have one label when they fall in the same day, month or year, and labels are in the
order of the days with which these begin.  The condition on a column for the label of a date asks for
the column's points in time in the bucket of that date, whatever rows there are. -/
theorem dateLabel_buckets (g : Granularity) (a b : Temporal) (e : Expr) :
    (dateLabel g a.toDatum = dateLabel g b.toDatum ↔ Date.SameBucket g a.day b.day) ∧
      (dateLabel g a.toDatum ≤ dateLabel g b.toDatum ↔
        (a.day.firstDay g).ordinal ≤ (b.day.firstDay g).ordinal) ∧
      ∃ condition, conditionOn e [.text (dateLabel g a.toDatum)] true = .ok condition ∧
        condition.pieces = anyPassed (labelTests e [dateLabel g a.toDatum]) ∧
        ∀ row : Expr → Option Temporal,
          (∃ t ∈ labelTests e [dateLabel g a.toDatum], t.Passes row) ↔
            ∃ c, row e.moment = some c ∧ Date.SameBucket g a.day c.day := by
  simp only [Temporal.dateLabel_toDatum]
  exact ⟨sameBucket_iff, bucketLabel_le_iff, _, rfl, pieces_labelOneOf e _,
    fun _ => exists_passes_iff⟩

/-- The year before 1000 comes first, with a zero in front. -/
example : dateLabel .year (.date ⟨999, 12, 31, by decide⟩) <
    dateLabel .year (.date ⟨1000, 1, 1, by decide⟩) := by
  decide +kernel

end ChartBoard.Widget
