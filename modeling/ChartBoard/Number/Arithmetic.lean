import ChartBoard.Number.Decimal

/-!
# Arithmetic of decimals

Decimals are calculated with 28 significant digits.  A result that has more is rounded to the
nearest, ties to the even neighbour; one that has fewer keeps its exponent.  The leading digit of a
result stands at most 999999 places before the point, and no digit stands more than 1000026 places
behind it.

* `Decimal.fitted` brings a result within these limits.
* `Decimal.magnitude`, `Decimal.subtract`, `Decimal.multiply` and `Decimal.divide` are the
  operations, and `Undefined` says why there may be no result.
-/

namespace ChartBoard.Number

/-- The number of significant digits of a calculated decimal. -/
def significantDigits : Nat := 28

/-- The highest place of a digit of a calculated decimal. -/
def highestPlace : Int := 999999

/-- The lowest place of a digit of a calculated decimal. -/
def lowestPlace : Int := -1000026

/-- Why an operation on decimals has no result. -/
inductive Undefined where
  /-- The operands do not suit the operation. -/
  | operands
  /-- The divisor is zero, or too small to be told from zero. -/
  | zeroDivisor
  /-- The result is too large. -/
  | magnitude
deriving DecidableEq, Repr

/-- The number of digits of a natural. -/
def digitCount (n : Nat) : Nat := (Nat.toDigits 10 n).length

namespace Decimal

/-- A coefficient and an exponent with fewer digits, rounded.  Of a coefficient with less digits
than are to go, nothing is left. -/
def shortened (surplus : Nat) (coefficient : Nat) (exponent : Int) : Nat × Int :=
  if digitCount coefficient < surplus then (0, exponent + surplus)
  else (roundDiv coefficient (power 10 surplus), exponent + surplus)

/-- A finite result with no more than the significant digits and none below the lowest place. -/
def roundedParts (coefficient : Nat) (exponent : Int) : Nat × Int :=
  let surplus := max (digitCount coefficient - significantDigits) (lowestPlace - exponent).toNat
  let (c, e) := shortened surplus coefficient exponent
  if digitCount c ≤ significantDigits then (c, e) else (c / 10, e + 1)

/-- A result within the limits. -/
def fitted : Decimal → Except Undefined Decimal
  | finite negative 0 exponent =>
    .ok (finite negative 0 (max lowestPlace (min exponent highestPlace)))
  | finite negative coefficient exponent =>
    let (c, e) := roundedParts coefficient exponent
    if highestPlace < e + digitCount c - 1 then .error .magnitude else .ok (finite negative c e)
  | d => .ok d

/-- The decimal without its sign. -/
def magnitude : Decimal → Except Undefined Decimal
  | finite _ coefficient exponent => fitted (finite false coefficient exponent)
  | infinite _ => .ok (infinite false)
  | notANumber negative signalling payload =>
    if signalling then .error .operands else .ok (notANumber negative false payload)

/-- A signed coefficient and an exponent as a decimal, of the given sign where it is zero. -/
def ofScaled (zeroNegative : Bool) (n : Int) (exponent : Int) : Decimal :=
  finite (if n = 0 then zeroNegative else n < 0) n.natAbs exponent

/-- The signed coefficient of a finite decimal at an exponent not above its own. -/
def scaledTo (negative : Bool) (coefficient : Nat) (exponent least : Int) : Int :=
  let n : Int := (coefficient * power 10 (exponent - least).toNat : Nat)
  if negative then -n else n

/-- The second of two magnitudes as it counts beside the first: where it lies below all digits that
can matter, it is no more than a trace. -/
def beside (c₁ : Nat) (e₁ : Int) (c₂ : Nat) (e₂ : Int) : Nat × Int :=
  let place := e₁ - 1 + min 0 ((digitCount c₁ : Int) - significantDigits - 1)
  if e₂ < e₁ && c₁ ≠ 0 && e₂ + digitCount c₂ - 1 < place then (min c₂ 1, place) else (c₂, e₂)

/-- What two operands of which one is not a number give. -/
def spread : Decimal → Decimal → Except Undefined Decimal
  | notANumber _ true _, _ => .error .operands
  | _, notANumber _ true _ => .error .operands
  | notANumber n false p, _ => .ok (notANumber n false p)
  | _, d => .ok d

/-- The difference of two decimals. -/
def subtract (a b : Decimal) : Except Undefined Decimal :=
  match a, b with
  | finite n₁ c₁ e₁, finite n₂ c₂ e₂ =>
    let (d₁, f₁) := beside c₂ e₂ c₁ e₁
    let (d₂, f₂) := beside c₁ e₁ c₂ e₂
    let least := min f₁ f₂
    let difference := scaledTo n₁ d₁ f₁ least - scaledTo n₂ d₂ f₂ least
    fitted (ofScaled (n₁ && !n₂) difference least)
  | infinite n₁, infinite n₂ => if n₁ = n₂ then .error .operands else .ok (infinite n₁)
  | infinite n, finite .. => .ok (infinite n)
  | finite .., infinite n => .ok (infinite (!n))
  | _, _ => spread a b

/-- The product of two decimals. -/
def multiply (a b : Decimal) : Except Undefined Decimal :=
  match a, b with
  | finite n₁ c₁ e₁, finite n₂ c₂ e₂ => fitted (finite (n₁ != n₂) (c₁ * c₂) (e₁ + e₂))
  | infinite n₁, infinite n₂ => .ok (infinite (n₁ != n₂))
  | infinite n₁, finite n₂ c _ => if c = 0 then .error .operands else .ok (infinite (n₁ != n₂))
  | finite n₁ c _, infinite n₂ => if c = 0 then .error .operands else .ok (infinite (n₁ != n₂))
  | _, _ => spread a b

/-- A coefficient with its trailing zeros moved into the exponent, as long as that stays below
`ideal`. -/
def stripped (ideal : Int) : (fuel : Nat) → Nat → Int → Nat × Int
  | 0, c, e => (c, e)
  | fuel + 1, c, e =>
    if e < ideal && c % 10 = 0 then stripped ideal fuel (c / 10) (e + 1) else (c, e)

/-- The quotient of two magnitudes, the divisor not zero.  One digit more than the significant
ones is calculated, and made odd where a remainder is left, so that rounding sees it. -/
def quotientOf (negative : Bool) (c₁ : Nat) (e₁ : Int) (c₂ : Nat) (e₂ : Int) : Decimal :=
  let ideal := e₁ - e₂
  let shift : Int := (digitCount c₂ : Int) - digitCount c₁ + significantDigits + 1
  let num := c₁ * power 10 shift.toNat
  let den := c₂ * power 10 (-shift).toNat
  let q := num / den
  if num % den ≠ 0 then finite negative (if q % 5 = 0 then q + 1 else q) (ideal - shift)
  else
    let (c, e) := stripped ideal (digitCount q) q (ideal - shift)
    finite negative c e

/-- The quotient of two decimals.  A finite number over an infinite one is the smallest zero. -/
def divide (a b : Decimal) : Except Undefined Decimal :=
  match a, b with
  | finite n₁ c₁ e₁, finite n₂ c₂ e₂ =>
    if c₂ = 0 then .error (if c₁ = 0 then .operands else .zeroDivisor)
    else if c₁ = 0 then fitted (finite (n₁ != n₂) 0 (e₁ - e₂))
    else fitted (quotientOf (n₁ != n₂) c₁ e₁ c₂ e₂)
  | infinite n₁, finite n₂ _ _ => .ok (infinite (n₁ != n₂))
  | finite n₁ _ _, infinite n₂ => .ok (finite (n₁ != n₂) 0 lowestPlace)
  | infinite _, infinite _ => .error .operands
  | _, _ => spread a b

end Decimal

end ChartBoard.Number
