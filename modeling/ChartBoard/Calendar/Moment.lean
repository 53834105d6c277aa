import ChartBoard.Calendar.Date
import ChartBoard.Calendar.Clock

/-!
# Moments

A date with a time of day, with or without the distance of its clock from universal time.

* `Offset` is that distance, below a day.
* `Moment.iso` writes a moment with any separator between date and time, `Moment.stamp` in the
  form of messages, with offsets down to the minute.
-/

namespace ChartBoard.Calendar

open Number (padded)

/-- The distance of a clock from universal time, in microseconds, below a day. -/
structure Offset where
  microseconds : Int
  belowDay : microseconds.natAbs < 86400000000
deriving DecidableEq

/-- The offset of a number of microseconds, if it is below a day. -/
def Offset.ofMicroseconds? (n : Int) : Option Offset :=
  if h : n.natAbs < 86400000000 then some ⟨n, h⟩ else none

/-- The offset as `+HH:MM`, with seconds and their fraction only where they are not zero. -/
def Offset.iso (o : Offset) : String :=
  let n := o.microseconds.natAbs
  let seconds := n / 1000000
  let rest := seconds % 60
  (if o.microseconds < 0 then "-" else "+") ++ padded 2 (seconds / 3600) ++ ":"
    ++ padded 2 (seconds / 60 % 60)
    ++ (if rest = 0 && n % 1000000 = 0 then ""
        else ":" ++ padded 2 rest ++ fractionText (n % 1000000))

/-- The offset in hours and minutes, `Z` for none at all.  Fractions of a second are rounded down,
seconds towards zero. -/
def Offset.stamp (o : Offset) : String :=
  let seconds := Int.fdiv o.microseconds 1000000
  if seconds = 0 then "Z"
  else (if seconds < 0 then "-" else "+") ++ padded 2 (seconds.natAbs / 3600) ++ ":"
    ++ padded 2 (seconds.natAbs / 60 % 60)

/-- A date and a time of day. -/
structure Moment where
  date : Date
  clock : Clock
  offset : Option Offset
deriving DecidableEq

/-- The start of a day, without an offset. -/
def Moment.ofDate (d : Date) : Moment := ⟨d, .midnight, none⟩

/-- The date and the time with a separator between them, and the offset if there is one. -/
def Moment.iso (separator : String) (m : Moment) : String :=
  m.date.iso ++ separator ++ m.clock.iso ++ (m.offset.map Offset.iso).getD ""

/-- The date and the time, and the offset in hours and minutes if there is one. -/
def Moment.stamp (m : Moment) : String :=
  m.date.iso ++ "T" ++ m.clock.iso ++ (m.offset.map Offset.stamp).getD ""

end ChartBoard.Calendar
