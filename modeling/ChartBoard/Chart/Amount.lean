import ChartBoard.Datum.Reading
import ChartBoard.Number.Arithmetic
import ChartBoard.Number.Decimal

/-!
# Amounts

The numbers that charts show.  Where there is nothing to show, the amount is empty; it is written
as the integer zero, while a measured zero is a double.

* `total` adds a column up.
* `changePercent` is the change from one amount to another.
-/

namespace ChartBoard.Chart

open Number

/-- A number to show, empty where there is none. -/
abbrev Amount := Option Float

/-- The value of an amount. -/
def Amount.toFloat (a : Amount) : Float := a.getD 0.0

/-- An amount as a value. -/
def Amount.toDatum : Amount → Datum
  | some x => .float x
  | none => .int 0

/-- The sum from left to right; that of no numbers is empty. -/
def total (xs : List Float) : Amount := if xs.isEmpty then none else some (xs.foldl (· + ·) 0.0)

/-- The numbers of a column, row by row. -/
def column (rows : List Record) (field : String) : Except Fault (List Float) :=
  rows.mapM fun row => (Record.get row field).number

/-! ## Change -/

/-- The change from `previous` to `current` in percent of `previous`, unless that is zero. -/
def changePercent (current previous : Float) : Option Float :=
  if previous == 0 then none else some ((current - previous) / previous.abs * 100)

/-- The integer that a value is, truth values included. -/
def whole? : Datum → Option Int
  | .int n => some n
  | .bool b => some (if b then 1 else 0)
  | _ => none

/-- The double that a number is. -/
def double : Datum → Except Fault Float
  | .float x => .ok x
  | v =>
    match whole? v with
    | none => .error .wrongKind
    | some n =>
      match ofInt? n with
      | some x => .ok x
      | none => .error .numberTooLarge

/-- The decimal that an exact number is; a double is none. -/
def decimalOf? : Datum → Option Decimal
  | .decimal d => some d
  | v => (whole? v).map .ofInt

/-- The change from one decimal to another in percent. -/
def decimalChange (current previous : Decimal) : Except Fault Datum := do
  let change := do
    let share ← (← current.subtract previous).divide (← previous.magnitude)
    share.multiply (.ofInt 100)
  return .decimal (← change.mapError .undefinedResult)

/-- The change from one integer to another in percent, calculated exactly up to the quotient. -/
def wholeChange (current previous : Int) : Except Fault Datum :=
  match quotient? (current - previous) previous.natAbs with
  | some x => .ok (.float (x * 100))
  | none => .error .numberTooLarge

/-- The change from one length of time to another in percent. -/
def durationChange (current previous : Calendar.Duration) : Except Fault Datum :=
  let difference : Calendar.Duration := ⟨current.microseconds - previous.microseconds⟩
  if previous.microseconds = 0 then .error .divisionByZero
  else if 999999999 < difference.days || difference.days < -999999999 then .error .numberTooLarge
  else wholeChange current.microseconds previous.microseconds

/-- True of a number that is zero.  A signalling not-a-number cannot be compared. -/
def isZero : Datum → Except Fault Bool
  | .decimal d => if d.toFloat?.isNone then .error (.undefinedResult .operands) else .ok d.isZero
  | .float x => .ok (x == 0)
  | v => .ok (whole? v == some 0)

/-- The change from one value to another in percent; none from null, to null or from zero.
Integers, decimals and lengths of time are calculated with in their own way, and a decimal not
with a double. -/
def changePercentOf (current previous : Datum) : Except Fault Datum := do
  if current.isNull || previous.isNull then return .null
  if ← isZero previous then return .null
  match current, previous with
  | .duration c, .duration p => durationChange c p
  | _, _ =>
    match whole? current, whole? previous with
    | some c, some p => wholeChange c p
    | _, _ =>
      match decimalOf? current, decimalOf? previous with
      | some c, some p => decimalChange c p
      | _, _ =>
        if !current.isNumber || !previous.isNumber then throw .wrongKind
        let c ← double current
        let p ← double previous
        return .float ((c - p) / p.abs * 100)

end ChartBoard.Chart
