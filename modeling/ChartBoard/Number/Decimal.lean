import ChartBoard.Number.Notation

/-!
# Decimals

A decimal number as it is written: a coefficient and a power of ten, so that `1.50` and `1.5`
differ.

* `Decimal.text` writes it with all its digits.
* `Decimal.toFloat?` is the nearest double; a signalling not-a-number has none.
* `Decimal.ofFloat` and `Decimal.ofInt` are exact; `Decimal.compare?` compares by value.
* `Decimal.truncated?` is the whole part.
* `quotient?` is the double nearest to a quotient of integers, rounded once.
-/

namespace ChartBoard.Number

/-- A decimal number as written. -/
inductive Decimal where
  /-- The number `± coefficient · 10 ^ exponent`. -/
  | finite (negative : Bool) (coefficient : Nat) (exponent : Int)
  | infinite (negative : Bool)
  /-- Not a number, with a sign and a payload that is kept and shown unless it is zero. -/
  | notANumber (negative signalling : Bool) (payload : Nat)
deriving DecidableEq, Repr

/-- Not a number. -/
def nan : Float := 0.0 / 0.0

/-- Positive infinity. -/
def infinity : Float := 1.0 / 0.0

/-- The double nearest to `digits · 10 ^ exponent`.  Beyond 400 places on either side the answer
is known without computing the power. -/
def nearest (digits : Nat) (exponent : Int) : Float :=
  let magnitude := exponent + (Nat.toDigits 10 digits).length
  if digits = 0 || magnitude < -400 then 0.0
  else if 400 < magnitude then infinity
  else if exponent < 0 then Float.ofScientific digits true exponent.natAbs
  else Float.ofScientific digits false exponent.natAbs

namespace Decimal

/-- The nearest double. -/
def toFloat? : Decimal → Option Float
  | finite negative digits exponent =>
    some (if negative then -(nearest digits exponent) else nearest digits exponent)
  | infinite negative => some (if negative then -infinity else infinity)
  | notANumber _ signalling _ => if signalling then none else some nan

/-- The magnitude of a finite decimal.  All digits are kept; an exponent is written for numbers
with a positive one and for those below a millionth. -/
def magnitudeText (coefficient : Nat) (exponent : Int) : String :=
  let digits := Nat.toDigits 10 coefficient
  let left := exponent + digits.length
  let point := if exponent ≤ 0 && -6 < left then left else 1
  let body :=
    if point ≤ 0 then
      "0." ++ String.ofList (List.replicate (-point).toNat '0' ++ digits)
    else if (digits.length : Int) ≤ point then
      String.ofList (digits ++ List.replicate (point.toNat - digits.length) '0')
    else String.ofList (digits.take point.toNat) ++ "." ++ String.ofList (digits.drop point.toNat)
  if left = point then body
  else body ++ (if left < point then "E-" else "E+") ++ toString (left - point).natAbs

/-- The decimal with all its digits. -/
def text : Decimal → String
  | finite negative coefficient exponent =>
    (if negative then "-" else "") ++ magnitudeText coefficient exponent
  | infinite negative => if negative then "-Infinity" else "Infinity"
  | notANumber negative signalling payload =>
    (if negative then "-" else "") ++ (if signalling then "sNaN" else "NaN")
      ++ (if payload = 0 then "" else toString payload)

/-- True of zero, of either sign. -/
def isZero : Decimal → Bool
  | finite _ coefficient _ => coefficient == 0
  | _ => false

/-- True of what is not a number. -/
def isNaN : Decimal → Bool
  | notANumber .. => true
  | _ => false

/-- An integer as a decimal. -/
def ofInt (n : Int) : Decimal := finite (n < 0) n.natAbs 0

/-- The exact value of a double. -/
def ofFloat (x : Float) : Decimal :=
  match Binary.ofFloat? x with
  | some b =>
    if 0 ≤ b.exponent then finite b.negative b.num 0
    else finite b.negative (b.mantissa * power 5 b.exponent.natAbs) b.exponent
  | none => if x.isNaN then notANumber false false 0 else infinite (x < 0)

/-- The whole part of a finite decimal. -/
def truncated? : Decimal → Option Int
  | finite negative coefficient exponent =>
    let whole : Int :=
      (if 0 ≤ exponent then coefficient * power 10 exponent.natAbs
      else coefficient / power 10 exponent.natAbs : Nat)
    some (if negative then -whole else whole)
  | _ => none

/-- The order of two magnitudes.  Unless their leading digits stand in the same place, that place
decides. -/
def compareMagnitudes (c₁ : Nat) (e₁ : Int) (c₂ : Nat) (e₂ : Int) : Ordering :=
  if c₁ = 0 || c₂ = 0 then compare c₁ c₂
  else
    let place (c : Nat) (e : Int) : Int := e + (Nat.toDigits 10 c).length
    match compare (place c₁ e₁) (place c₂ e₂) with
    | .eq =>
      let least := min e₁ e₂
      compare (c₁ * power 10 (e₁ - least).toNat) (c₂ * power 10 (e₂ - least).toNat)
    | order => order

/-- The order of two decimals by value; none when one of them is not a number. -/
def compare? : Decimal → Decimal → Option Ordering
  | notANumber .., _ => none
  | _, notANumber .. => none
  | infinite n₁, infinite n₂ => some (compare (!n₁) (!n₂))
  | infinite n, finite .. => some (if n then .lt else .gt)
  | finite .., infinite n => some (if n then .gt else .lt)
  | finite n₁ c₁ e₁, finite n₂ c₂ e₂ =>
    if c₁ = 0 && c₂ = 0 then some .eq
    else
      let below₁ := n₁ && c₁ != 0
      let below₂ := n₂ && c₂ != 0
      match below₁, below₂ with
      | true, true => some (compareMagnitudes c₂ e₂ c₁ e₁)
      | true, false => some .lt
      | false, true => some .gt
      | false, false => some (compareMagnitudes c₁ e₁ c₂ e₂)

end Decimal

/-! ## Quotients of integers -/

/-- The double nearest to a quotient of naturals, ties to even. -/
def nearestQuotient (num den : Nat) : Float :=
  let estimate : Int := (num.log2 : Int) - den.log2
  let scaled (shift : Int) : Nat :=
    roundDiv (num * power 2 (-shift).toNat) (den * power 2 shift.toNat)
  let below := num * power 2 (-estimate).toNat < den * power 2 estimate.toNat
  let shift := max (-1074) ((if below then estimate - 1 else estimate) - 52)
  if num = 0 || estimate < -1100 then 0.0
  else if 1100 < estimate then infinity
  else Binary.toFloat (scaled shift) shift

/-- The quotient of an integer and a positive one as a double, unless it is beyond the range of
doubles. -/
def quotient? (num : Int) (den : Nat) : Option Float :=
  let magnitude := nearestQuotient num.natAbs den
  if magnitude.isFinite then some (if num < 0 then -magnitude else magnitude) else none

end ChartBoard.Number
