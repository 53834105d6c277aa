import ChartBoard.Number.Notation

/-!
# Times of day and lengths of time

* `Clock` is a time of day in microseconds, `Clock.iso` writes it.
* `Duration` is a signed length of time in microseconds, `Duration.text` writes it with its days,
  `Duration.stamp` in the form of messages.
-/

namespace ChartBoard.Calendar

open Number (padded)

/-- A time of day. -/
structure Clock where
  hour : Nat
  minute : Nat
  second : Nat
  microsecond : Nat
  inRange : hour < 24 ∧ minute < 60 ∧ second < 60 ∧ microsecond < 1000000
deriving DecidableEq

/-- The start of a day. -/
def Clock.midnight : Clock := ⟨0, 0, 0, 0, by decide⟩

/-- The time of day with these parts, if there is one. -/
def Clock.ofParts? (hour minute second microsecond : Nat) : Option Clock :=
  if h : hour < 24 ∧ minute < 60 ∧ second < 60 ∧ microsecond < 1000000 then
    some ⟨hour, minute, second, microsecond, h⟩
  else none

/-- A fraction of a second, omitted when it is zero. -/
def fractionText (microsecond : Nat) : String :=
  if microsecond = 0 then "" else "." ++ padded 6 microsecond

/-- The time as `HH:MM:SS`, with six decimals if there is a fraction. -/
def Clock.iso (c : Clock) : String :=
  padded 2 c.hour ++ ":" ++ padded 2 c.minute ++ ":" ++ padded 2 c.second
    ++ fractionText c.microsecond

/-- A signed length of time. -/
structure Duration where
  microseconds : Int
deriving DecidableEq

namespace Duration

/-- The whole days, rounded down. -/
def days (d : Duration) : Int := Int.fdiv d.microseconds 86400000000

/-- The microseconds beyond the whole days. -/
def withinDay (d : Duration) : Nat := (Int.fmod d.microseconds 86400000000).toNat

/-- The whole seconds beyond the whole days. -/
def seconds (d : Duration) : Nat := d.withinDay / 1000000

/-- The microseconds beyond the whole seconds. -/
def fraction (d : Duration) : Nat := d.withinDay % 1000000

/-- The length as `H:MM:SS` after its days, which may be negative. -/
def text (d : Duration) : String :=
  let days :=
    if d.days = 0 then ""
    else toString d.days ++ (if d.days.natAbs = 1 then " day, " else " days, ")
  days ++ toString (d.seconds / 3600) ++ ":" ++ padded 2 (d.seconds / 60 % 60) ++ ":"
    ++ padded 2 (d.seconds % 60) ++ fractionText d.fraction

/-- A number before its unit, omitted when it is zero. -/
def unitText (n : Nat) (unit : String) : String := if n = 0 then "" else toString n ++ unit

/-- The decimals of a second without zeros at the end. -/
def shortFraction (microsecond : Nat) : String :=
  String.ofList ((fractionText microsecond).toList.reverse.dropWhile (· == '0')).reverse

/-- The length as `P1Y2DT3H4M5.6S`, a year being 365 days. -/
def stamp (d : Duration) : String :=
  let n := d.microseconds.natAbs
  let days := n / 86400000000
  let seconds := n % 86400000000 / 1000000
  let rest := n % 1000000
  let time := unitText (seconds / 3600) "H" ++ unitText (seconds / 60 % 60) "M"
    ++ (if seconds % 60 = 0 && rest = 0 then ""
        else toString (seconds % 60) ++ shortFraction rest ++ "S")
  (if d.microseconds < 0 then "-P" else "P") ++ unitText (days / 365) "Y"
    ++ unitText (days % 365) "D"
    ++ (if n = 0 then "T0S" else if time.isEmpty then "" else "T" ++ time)

/-- A number of seconds as a length, rounded to the nearest microsecond, ties to even. -/
def ofSeconds? (x : Float) : Option Duration :=
  (Number.Binary.ofFloat? x).map fun b =>
    let whole := b.num / b.den
    let rest := x.abs - Float.ofNat whole
    let parts := match Number.Binary.ofFloat? (rest * 1000000.0) with
      | some f => Number.roundDiv f.num f.den
      | none => 0
    let total : Int := whole * 1000000 + parts
    ⟨if b.negative then -total else total⟩

/-- The length in seconds. -/
def toSeconds (d : Duration) : Float := Float.ofInt d.microseconds / 1000000.0

end Duration

end ChartBoard.Calendar
