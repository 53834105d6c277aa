import ChartBoard.Number.Binary

/-!
# The fewest digits that read back

The decimal with the fewest digits among those that round to a given double, and of those the
nearest.  The reals that round to a double form an interval, whose ends belong to it when the
mantissa is even.  On each decimal grid only the two neighbours of the value need a test.

* `shortest` gives the digits and the power of ten.
-/

namespace ChartBoard.Number

/-- The number `digits · 10 ^ exponent`. -/
structure Scientific where
  digits : Nat
  exponent : Int
deriving DecidableEq, Repr

/-- Twice the numerator over twice the denominator of `digits · 10 ^ exponent`, as a pair. -/
def Scientific.fraction (d : Scientific) : Nat × Nat :=
  (d.digits * power 10 d.exponent.toNat, power 10 (-d.exponent).toNat)

/-- True when the decimal lies in the interval of reals that round to the double. -/
def Binary.admits (b : Binary) (d : Scientific) : Bool :=
  let (num, den) := d.fraction
  let unit := power 2 b.exponent.toNat * den
  let value := 4 * num * b.den
  let low := (4 * b.mantissa - if b.narrowBelow then 1 else 2) * unit
  let high := (4 * b.mantissa + 2) * unit
  if b.mantissa % 2 = 0 then low ≤ value && value ≤ high else low < value && value < high

/-- The number of decimal digits of the integer part, or minus the zeros after the point: the
least `k` with a magnitude below `10 ^ k`. -/
def Binary.scale (b : Binary) : Int :=
  if b.den ≤ b.num then (Nat.toDigits 10 (b.num / b.den)).length
  else 1 - (Nat.toDigits 10 ((b.den - 1) / b.num)).length

/-- The neighbours of the magnitude on the grid of the powers `10 ^ exponent`, below and above. -/
def Binary.neighbours (b : Binary) (exponent : Int) : Scientific × Scientific :=
  let below := b.num * power 10 (-exponent).toNat / (b.den * power 10 exponent.toNat)
  (⟨below, exponent⟩, ⟨below + 1, exponent⟩)

/-- True when the lower neighbour is at least as near as the upper one. -/
def Binary.nearerBelow (b : Binary) (exponent : Int) (below : Nat) : Bool :=
  let value := 2 * b.num * power 10 (-exponent).toNat
  let middle := (2 * below + 1) * (b.den * power 10 exponent.toNat)
  value < middle || (value == middle && below % 2 == 0)

/-- The nearest decimal on one grid that reads back, if there is one. -/
def Binary.onGrid? (b : Binary) (exponent : Int) : Option Scientific :=
  let (below, above) := b.neighbours exponent
  match b.admits below, b.admits above with
  | true, true => some (if b.nearerBelow exponent below.digits then below else above)
  | true, false => some below
  | false, true => some above
  | false, false => none

/-- The same number without zeros at the end of its digits; `fuel` bounds their count. -/
def Scientific.strip : (fuel : Nat) → Scientific → Scientific
  | 0, d => d
  | fuel + 1, d =>
    if d.digits ≠ 0 && d.digits % 10 == 0 then strip fuel ⟨d.digits / 10, d.exponent + 1⟩ else d

/-- The fewest digits that read back as the magnitude, which is not zero.  Seventeen always
suffice. -/
def Binary.shortest (b : Binary) : Scientific :=
  let scale := b.scale
  let found := (List.range 17).findSome? fun (n : Nat) => b.onGrid? (scale - 1 - (n : Nat))
  (found.getD ⟨b.num * power 10 (-b.exponent).toNat / b.den, b.exponent⟩).strip 20

end ChartBoard.Number
