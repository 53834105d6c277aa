import ChartBoard.Engine.Session
import ChartBoard.Proofs.Datum.DateLabel

/-!
# Labels of dates from the engine

The engine hands out dates and moments, which are written as texts before anything is made of them.

* `dateLabel_survives` says that their labels do not change by that, and that labels are not taken
  for dates when they are labelled once more.
-/

namespace ChartBoard.Engine

/-- A date or a moment keeps its labels when it is written as a text, whatever its offset, and a
label is its own label by any unit. -/
theorem dateLabel_survives (g h : Granularity) (t : Temporal) (v : Datum) :
    (∃ w, interchange t.toDatum = .ok w ∧ dateLabel g w = dateLabel g t.toDatum) ∧
      dateLabel h (.text (dateLabel g v)) = dateLabel g v := by
  refine ⟨?_, dateLabel_dateLabel g h v⟩
  cases t with
  | date d => exact ⟨.text d.iso, rfl, dateLabel_dateIso g d⟩
  | moment m => exact ⟨.text (m.iso "T"), rfl, dateLabel_iso g m⟩

/-- The first day of the calendar, on a clock that is almost a day behind. -/
example : dateLabel .month (.text "0001-01-01T23:59:59.999999-23:59:59.999999") = "0001/01" := by
  decide +kernel

end ChartBoard.Engine
