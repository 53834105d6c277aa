/-!
# Doubles as exact rationals

A finite double is a sign and a natural number times a power of two.  Everything that writes a
double, or rounds it to places, works on this exact value.

* `Binary.ofFloat?` decodes a finite double.
* `ofInt?` turns an integer into the nearest double, unless it lies beyond the largest one.
-/

namespace ChartBoard.Number

/-- A power of a natural number. -/
def power (base exponent : Nat) : Nat := Nat.pow base exponent

/-- The magnitude `mantissa · 2 ^ exponent` with its sign. -/
structure Binary where
  negative : Bool
  mantissa : Nat
  exponent : Int
  /-- The gap to the double below is half the gap to the double above. -/
  narrowBelow : Bool
deriving DecidableEq, Repr

/-- The exact value of a finite double. -/
def Binary.ofFloat? (x : Float) : Option Binary :=
  let bits : Nat := x.toBits.toNat
  let negative := bits / power 2 63 == 1
  let biased : Nat := bits / power 2 52 % power 2 11
  let fraction : Nat := bits % power 2 52
  if biased = 2047 then none
  else if biased = 0 then some ⟨negative, fraction, -1074, false⟩
  else some ⟨negative, fraction + power 2 52, (biased : Int) - 1075, fraction == 0 && biased > 1⟩

/-- The numerator of the magnitude. -/
def Binary.num (b : Binary) : Nat := b.mantissa * power 2 b.exponent.toNat

/-- The denominator of the magnitude. -/
def Binary.den (b : Binary) : Nat := power 2 (-b.exponent).toNat

/-- The least magnitude of an integer that no finite double is nearest to. -/
def overflowBound : Nat := power 2 1024 - power 2 970

/-- The double nearest to an integer, unless the integer is beyond the range of doubles. -/
def ofInt? (n : Int) : Option Float :=
  if n.natAbs < overflowBound then some (Float.ofInt n) else none

/-- The quotient of two naturals rounded to the nearest natural, ties to the even one. -/
def roundDiv (num den : Nat) : Nat :=
  let q := num / den
  let twice := 2 * (num % den)
  if twice < den then q else if den < twice then q + 1 else q + q % 2

/-- The double `mantissa · 2 ^ exponent`, for a mantissa of at most 53 bits.  Below 53 bits the
exponent is the least one, -1074; a magnitude that is too large becomes infinite. -/
def Binary.toFloat (mantissa : Nat) (exponent : Int) : Float :=
  let bits : Nat :=
    if 971 < exponent then 2047 * power 2 52
    else if mantissa < power 2 52 then mantissa
    else (exponent + 1075).toNat * power 2 52 + (mantissa - power 2 52)
  Float.ofBits bits.toUInt64

end ChartBoard.Number
