import ChartBoard.Text.Blank
import ChartBoard.Text.DecimalDigit
import ChartBoard.Number.Decimal

/-!
# Reading numbers

The grammar of numbers in text: an optional sign, digits of any script with single underscores
between them, at most one point, an optional exponent; or the words for infinity and for no
number.  The space around a number is ignored.

* `readNumber?` reads the grammar; `floatOfText?` also rounds to the nearest double.
* `intOfText?` reads an integer of at most `mostDigits` digits.
* `Decimal.read?` reads a decimal, which may also be a not-a-number with a payload.
-/

namespace ChartBoard.Number

/-- A run of digits: their value and their count. -/
structure DigitRun where
  value : Nat
  count : Nat
deriving DecidableEq, Repr

/-- The digits at the start of a text, an underscore allowed between two of them.  `run` holds
those already read. -/
def readDigits (run : DigitRun) : List Char → DigitRun × List Char
  | [] => (run, [])
  | c :: rest =>
    match Text.digitValue? c with
    | some d => readDigits ⟨run.value * 10 + d, run.count + 1⟩ rest
    | none =>
      if c = '_' && run.count ≠ 0 then
        match rest with
        | d :: more =>
          match Text.digitValue? d with
          | some v => readDigits ⟨run.value * 10 + v, run.count + 1⟩ more
          | none => (run, c :: rest)
        | [] => (run, c :: rest)
      else (run, c :: rest)

/-- The sign at the start of a text. -/
def readSign : List Char → Bool × List Char
  | '-' :: rest => (true, rest)
  | '+' :: rest => (false, rest)
  | cs => (false, cs)

/-- The exponent that makes up a whole text, zero when the text is empty. -/
def readExponent? : List Char → Option Int
  | [] => some 0
  | c :: rest =>
    if c = 'e' || c = 'E' then
      let (negative, rest) := readSign rest
      let (run, rest) := readDigits ⟨0, 0⟩ rest
      if run.count ≠ 0 && rest.isEmpty then
        some (if negative then -(run.value : Int) else run.value)
      else none
    else none

/-- An unsigned number that makes up a whole text. -/
def readMagnitude? (negative : Bool) (cs : List Char) : Option Decimal :=
  let (whole, rest) := readDigits ⟨0, 0⟩ cs
  let (all, decimals, rest) :=
    match rest with
    | '.' :: more =>
      let (part, after) := readDigits ⟨0, 0⟩ more
      (whole.value * power 10 part.count + part.value, part.count, after)
    | _ => (whole.value, 0, rest)
  if whole.count + decimals = 0 then none
  else (readExponent? rest).map fun e => .finite negative all (e - decimals)

/-- True of the characters that count as space around a number: the blank ones without the
information separators. -/
def isSpace (c : Char) : Bool := Text.isBlank c && !(0x1c ≤ c.toNat && c.toNat ≤ 0x1f)

/-- The characters of a number without the space around it. -/
def withoutSpace (cs : List Char) : List Char := Text.dropEndWhile isSpace (cs.dropWhile isSpace)

/-- The words for infinity. -/
def infinityWords : List String := ["inf", "infinity"]

/-- The number that a text spells. -/
def readNumber? (s : String) : Option Decimal :=
  let (negative, rest) := readSign (withoutSpace s.toList)
  let word := String.ofList (rest.map Char.toLower)
  if word ∈ infinityWords then some (.infinite negative)
  else if word == "nan" then some (.notANumber negative false 0)
  else readMagnitude? negative rest

/-- The double that a text spells. -/
def floatOfText? (s : String) : Option Float := (readNumber? s).bind Decimal.toFloat?

/-- The integer that a text spells, unless it has too many digits. -/
def intOfText? (s : String) : Option Int :=
  let (negative, rest) := readSign (withoutSpace s.toList)
  let (run, rest) := readDigits ⟨0, 0⟩ rest
  if run.count ≠ 0 && run.count ≤ mostDigits && rest.isEmpty then
    some (if negative then -(run.value : Int) else run.value)
  else none

/-! ## Decimals -/

/-- A not-a-number after its sign: its word and the digits of its payload. -/
def readNaN? (negative : Bool) (cs : List Char) : Option Decimal :=
  let (signalling, rest) := match cs with
    | 's' :: rest => (true, rest)
    | rest => (false, rest)
  match rest with
  | 'n' :: 'a' :: 'n' :: digits =>
    let (run, rest) := readDigits ⟨0, 0⟩ digits
    if rest.isEmpty then some (.notANumber negative signalling run.value) else none
  | _ => none

/-- The decimal that a text, trimmed, spells.  Underscores do not count, wherever they stand. -/
def Decimal.read? (s : String) : Option Decimal :=
  let (negative, rest) := readSign ((Text.trimChars s.toList).filter (· != '_'))
  let small := rest.map Char.toLower
  if String.ofList small ∈ infinityWords then some (.infinite negative)
  else (readNaN? negative small).orElse fun _ => readMagnitude? negative rest

end ChartBoard.Number
