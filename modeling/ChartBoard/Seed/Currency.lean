import ChartBoard.Datum.Basic
import ChartBoard.Fault
import ChartBoard.Number.Notation

/-!
# Amounts of money as text

* `currencyText` writes a number as `$` and two places with grouped thousands, the way spreadsheets
  do.
-/

namespace ChartBoard.Seed

open Number

/-- An amount of money. -/
def currencyText (x : Float) : String := "$" ++ fixedText true x

/-- The hundredths nearest to a decimal magnitude, ties to even. -/
def hundredthsOf (coefficient : Nat) (exponent : Int) : Nat :=
  roundDiv (coefficient * power 10 (exponent + 2).toNat) (power 10 (-(exponent + 2)).toNat)

/-- An amount of money given as a decimal. -/
def decimalCurrencyText : Decimal → String
  | .finite negative coefficient exponent =>
    "$" ++ (if negative then "-" else "") ++ placesText true (hundredthsOf coefficient exponent)
  | d => "$" ++ d.text

/-- An amount of money given as any number.  Dates and times have a notation of their own, in which
the places asked for stand for themselves. -/
def currencyOf (amount : Datum) : Except Fault String :=
  let ofWhole (n : Int) : Except Fault String :=
    match ofInt? n with
    | some x => .ok (currencyText x)
    | none => .error .numberTooLarge
  match amount with
  | .bool b => ofWhole (if b then 1 else 0)
  | .int n => ofWhole n
  | .float x => .ok (currencyText x)
  | .decimal d => .ok (decimalCurrencyText d)
  | .date _ | .moment _ | .clock _ => .ok "$,.2f"
  | .text _ => .error .unreadable
  | _ => .error .wrongKind

end ChartBoard.Seed
