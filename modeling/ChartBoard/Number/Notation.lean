import ChartBoard.Number.Shortest

/-!
# Layout of numbers

How the digits of a double are laid out: by the point where exponents between fixed limits
allow it, else with one digit before the point and an exponent.

* `Layout` holds the decisions, `Layout.display` is the one this library writes with.
* `floatText` writes a double, `fixedText` writes one with two places and grouped thousands.
* `mostDigits` is the length up to which integers are read and written.
-/

namespace ChartBoard.Number

/-- The most digits that an integer may have where it is read or written as a text. -/
def mostDigits : Nat := 4300

/-- True of an integer that has few enough digits to be written. -/
def isWritable (n : Int) : Bool := decide (n.natAbs < power 10 mostDigits)

/-- The decisions taken when the digits of a double are written. -/
structure Layout where
  /-- The least decimal exponent that is written by the point. -/
  leastPositional : Int
  /-- The greatest decimal exponent that is written by the point. -/
  greatestPositional : Int
  /-- The least number of digits of an exponent. -/
  exponentWidth : Nat
  /-- What follows a number without decimals. -/
  wholeSuffix : String
  infinity : String
  notANumber : String

/-- Numbers are written by the point from `1e-4` to below `1e16` and always show that they are
no integers: by a point or by an exponent. -/
def Layout.display : Layout := ⟨-4, 15, 2, ".0", "inf", "nan"⟩

/-- The digits of `n` with zeros in front, up to `width`. -/
def padded (width n : Nat) : String :=
  let digits := Nat.toDigits 10 n
  String.ofList (List.replicate (width - digits.length) '0' ++ digits)

/-- The exponent with its sign. -/
def Layout.exponentText (layout : Layout) (e : Int) : String :=
  (if e < 0 then "e-" else "e+") ++ padded layout.exponentWidth e.natAbs

/-- The magnitude of a decimal that is not zero. -/
def Layout.magnitudeText (layout : Layout) (d : Scientific) : String :=
  let digits := Nat.toDigits 10 d.digits
  let count : Int := digits.length
  let exponent := d.exponent + count - 1
  if layout.leastPositional ≤ exponent && exponent ≤ layout.greatestPositional then
    if 0 ≤ d.exponent then
      String.ofList (digits ++ List.replicate d.exponent.toNat '0') ++ layout.wholeSuffix
    else if exponent < 0 then
      "0." ++ String.ofList (List.replicate (-exponent - 1).toNat '0' ++ digits)
    else
      let whole := (exponent + 1).toNat
      String.ofList (digits.take whole) ++ "." ++ String.ofList (digits.drop whole)
  else
    let point := if digits.length = 1 then "" else "."
    String.ofList (digits.take 1) ++ point ++ String.ofList (digits.drop 1)
      ++ layout.exponentText exponent

/-- The text of a double under a layout. -/
def Layout.text (layout : Layout) (x : Float) : String :=
  match Binary.ofFloat? x with
  | none =>
    if x.isNaN then layout.notANumber
    else if x < 0 then "-" ++ layout.infinity else layout.infinity
  | some b =>
    let magnitude :=
      if b.mantissa = 0 then "0" ++ layout.wholeSuffix else layout.magnitudeText b.shortest
    if b.negative then "-" ++ magnitude else magnitude

/-- The text of a double: the fewest digits that read back. -/
def floatText (x : Float) : String := Layout.display.text x

/-- The digits with a comma between groups of three, counted from the end. -/
def grouped (digits : List Char) : List Char :=
  let size := digits.length
  (digits.zipIdx.flatMap fun (c, i) =>
    if i ≠ 0 && (size - i) % 3 == 0 then [',', c] else [c])

/-- The hundredths nearest to the magnitude, ties to even. -/
def Binary.hundredths (b : Binary) : Nat := roundDiv (b.num * 100) b.den

/-- A number of hundredths with two places, its whole part grouped when `commas` is set. -/
def placesText (commas : Bool) (hundredths : Nat) : String :=
  let whole := Nat.toDigits 10 (hundredths / 100)
  String.ofList (if commas then grouped whole else whole) ++ "." ++ padded 2 (hundredths % 100)

/-- A double with two places, correctly rounded from its exact value. -/
def fixedText (commas : Bool) (x : Float) : String :=
  match Binary.ofFloat? x with
  | none => if x.isNaN then "nan" else if x < 0 then "-inf" else "inf"
  | some b => (if b.negative then "-" else "") ++ placesText commas b.hundredths

/-- The double nearest to the two-place rounding of a double. -/
def roundToHundredths (x : Float) : Float :=
  match Binary.ofFloat? x with
  | none => x
  | some b =>
    let magnitude := Float.ofScientific b.hundredths true 2
    if b.negative then -magnitude else magnitude

end ChartBoard.Number
