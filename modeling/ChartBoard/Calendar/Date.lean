import ChartBoard.Number.Notation

/-!
# Dates

Days of the calendar from year 1 to year 9999, their numbers counted from the first of them, and
the weeks of a year.

* `Date` carries the proof that its day exists.
* `Date.ordinal` and `Date.ofOrdinal?` count days; `Date.ofWeek?` finds a day by week.
* `Date.iso` writes `YYYY-MM-DD`.
-/

namespace ChartBoard.Calendar

open Number (padded)

/-- True of a year with a 29th of February. -/
def isLeap (year : Nat) : Bool := year % 4 == 0 && (year % 100 != 0 || year % 400 == 0)

/-- The number of days of a month, zero outside 1 to 12. -/
def daysInMonth (year month : Nat) : Nat :=
  if month = 2 then (if isLeap year then 29 else 28)
  else if month = 4 || month = 6 || month = 9 || month = 11 then 30
  else if 1 ≤ month && month ≤ 12 then 31
  else 0

/-- True when the day exists. -/
def isDay (year month day : Nat) : Bool :=
  1 ≤ year && year ≤ 9999 && 1 ≤ day && day ≤ daysInMonth year month

/-- A day of the calendar. -/
structure Date where
  year : Nat
  month : Nat
  day : Nat
  exists_ : isDay year month day = true
deriving DecidableEq

namespace Date

/-- The date of a day that exists. -/
def ofNumbers? (year month day : Nat) : Option Date :=
  if h : isDay year month day = true then some ⟨year, month, day, h⟩ else none

/-- The days before the first of January of a year. -/
def daysBeforeYear (year : Nat) : Nat :=
  let y := year - 1
  y * 365 + y / 4 - y / 100 + y / 400

/-- The days of a year before the first of a month. -/
def daysBeforeMonth (year month : Nat) : Nat :=
  (List.range (month - 1)).foldl (fun days m => days + daysInMonth year (m + 1)) 0

/-- The number of a day, one for the first day of year 1. -/
def ordinal (d : Date) : Nat :=
  daysBeforeYear d.year + daysBeforeMonth d.year d.month + d.day

/-- The month and day of the day that is `rest` days after the first of January. -/
def monthAndDay (year : Nat) : (months : List Nat) → (rest : Nat) → Nat × Nat
  | [], rest => (12, rest + 1)
  | m :: months, rest =>
    if rest < daysInMonth year m then (m, rest + 1)
    else monthAndDay year months (rest - daysInMonth year m)

/-- The day with a number. -/
def ofOrdinal? (n : Nat) : Option Date :=
  if n = 0 then none
  else
    let guess := (n - 1) / 366 + 1
    let years := (List.range 30).map (guess + ·)
    match years.find? fun y => daysBeforeYear y < n && n ≤ daysBeforeYear (y + 1) with
    | none => none
    | some year =>
      let (month, day) := monthAndDay year (List.range' 1 12) (n - 1 - daysBeforeYear year)
      ofNumbers? year month day

/-- The weekday of a numbered day, zero for Monday. -/
def weekday (ordinal : Nat) : Nat := (ordinal + 6) % 7

/-- True when a year has 53 weeks. -/
def hasLongYear (year : Nat) : Bool :=
  let first := weekday (daysBeforeYear year + 1)
  first == 3 || (first == 2 && isLeap year)

/-- The day `day` (one for Monday) of a week of a year.  The first week of a year is the one that
holds its first Thursday. -/
def ofWeek? (year week day : Nat) : Option Date :=
  if 1 ≤ year && year ≤ 9999 && 1 ≤ week && (week ≤ 52 || (week == 53 && hasLongYear year))
      && 1 ≤ day && day ≤ 7 then
    let newYear := daysBeforeYear year + 1
    let first := weekday newYear
    let monday := newYear + 7 * (if 3 < first then 1 else 0) + 7 * (week - 1)
    if first < monday + day then ofOrdinal? (monday + day - 1 - first) else none
  else none

/-- The date some days later. -/
def addDays? (d : Date) (n : Nat) : Option Date := ofOrdinal? (d.ordinal + n)

/-- The date as `YYYY-MM-DD`. -/
def iso (d : Date) : String :=
  padded 4 d.year ++ "-" ++ padded 2 d.month ++ "-" ++ padded 2 d.day

end Date

end ChartBoard.Calendar
