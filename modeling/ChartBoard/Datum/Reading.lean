import ChartBoard.Datum.Display
import ChartBoard.Fault
import ChartBoard.Number.Reading
import ChartBoard.Calendar.Reading
import ChartBoard.Text.Case
import ChartBoard.Text.Search

/-!
# Reading data

What a value of unknown kind means as a number, as a label and as a date.

* `Datum.number?` reads a finite number, ignoring the dress of amounts in text; `Datum.number`
  reads zero where there is none.
* `normalLabel` is what labels are compared by.
* `dateLabel` shows a date by year, month or day.
-/

namespace ChartBoard

open Number Calendar

/-! ## Numbers -/

/-- True of the characters that amounts are dressed with: the dollar sign, the comma, the percent
sign and blanks. -/
def isNumericNoise (c : Char) : Bool := c == '$' || c == ',' || c == '%' || Text.isBlank c

/-- A double, if it is a finite number. -/
def finite? (x : Float) : Option Float := if x.isFinite then some x else none

/-- The finite number that a text spells once its noise is removed. -/
def finiteOfText? (s : String) : Option Float :=
  (floatOfText? (Text.without isNumericNoise s)).bind finite?

namespace Datum

/-- The finite number that a value means, if any.  Truth values count as one and zero.  An
integer beyond the range of doubles is a fault. -/
def number? : Datum → Except Fault (Option Float)
  | null => .ok none
  | bool b => .ok (some (if b then 1.0 else 0.0))
  | int n =>
    match ofInt? n with
    | some x => .ok (finite? x)
    | none => .error .numberTooLarge
  | float x => .ok (finite? x)
  | decimal d => .ok (d.toFloat?.bind finite?)
  | v => .ok (finiteOfText? v.display)

/-- The finite number that a value means, zero if there is none. -/
def number (v : Datum) : Except Fault Float := do return (← v.number?).getD 0.0

/-- The number that a value means, or the integer zero when there is none or it is zero. -/
def numberOrZero (v : Datum) : Except Fault Datum := do
  match ← v.number? with
  | some x => return if x == 0 then .int 0 else .float x
  | none => return .int 0

/-- The integer that a value means: the whole part of a number, or what a text spells. -/
def integer : Datum → Except Fault Int
  | bool b => .ok (if b then 1 else 0)
  | int n => .ok n
  | float x =>
    match Binary.ofFloat? x with
    | some b =>
      let whole : Int := (b.num / b.den : Nat)
      .ok (if b.negative then -whole else whole)
    | none => .error (if x.isNaN then .unreadable else .numberTooLarge)
  | text s =>
    match intOfText? s with
    | some n => .ok n
    | none => .error .unreadable
  | decimal d =>
    match d.truncated? with
    | some n => .ok n
    | none => .error (if d.isNaN then .unreadable else .numberTooLarge)
  | _ => .error .wrongKind

/-- The integer that a value means, if it has few enough digits to be written. -/
def writableInteger (v : Datum) : Except Fault Int := do
  let n ← v.integer
  if isWritable n then return n else throw (.tooManyDigits none)

end Datum

/-! ## Labels -/

/-- What labels are compared by: their text, trimmed and in lower case. -/
def normalLabel (v : Datum) : String := Text.lower (Text.trim v.label)

/-! ## Dates -/

/-- The units that dates are shown by. -/
inductive Granularity where
  | day
  | month
  | year
deriving DecidableEq, Repr

/-- The word for a unit. -/
def Granularity.name : Granularity → String
  | day => "day"
  | month => "month"
  | year => "year"

/-- The unit that a word names. -/
def Granularity.ofName? (s : String) : Option Granularity :=
  if s == "day" then some day else if s == "month" then some month
  else if s == "year" then some year else none

/-- The moment that a value means.  A trailing `Z` stands for universal time. -/
def momentOf? : Datum → Option Moment
  | .moment m => some m
  | .date d => some (.ofDate d)
  | v =>
    let s := Text.trim v.label
    if s.isEmpty then none
    else match Text.startsWith? ['Z'] s.toList.reverse with
      | some rest => Moment.read? (String.ofList rest.reverse ++ "+00:00")
      | none => Moment.read? s

/-- A date as `YYYY`, `YYYY/MM` or `YYYY/MM/DD`. -/
def bucketLabel (g : Granularity) (d : Date) : String :=
  match g with
  | .year => padded 4 d.year
  | .month => padded 4 d.year ++ "/" ++ padded 2 d.month
  | .day => padded 4 d.year ++ "/" ++ padded 2 d.month ++ "/" ++ padded 2 d.day

/-- The label of a date; a value that means no date keeps its text. -/
def dateLabel (g : Granularity) (v : Datum) : String :=
  match momentOf? v with
  | some m => bucketLabel g m.date
  | none => v.label

/-! ## Column types -/

/-- True of a column type with a date or a time in it. -/
def isTemporalType (label : String) : Bool :=
  let upper := Text.upper label
  Text.contains upper "DATE" || Text.contains upper "TIME"

/-- True of a column type that holds text. -/
def isTextType (label : String) : Bool :=
  let upper := Text.upper label
  ["CHAR", "TEXT", "STRING", "VARCHAR"].any (Text.contains upper)

end ChartBoard
