import ChartBoard.Datum.Basic
import ChartBoard.Text.Search

/-!
# Reading the interchange format

Values as text: objects, lists, texts, numbers and the words for truth values, null, infinity and
not-a-number.  A number without point and exponent is an integer of at most `mostDigits` digits.  Of
members with one name the last value counts, in the place of the first.

* `Json.read` reads a whole text in which lists and objects nest not too deep, or says why it cannot;
  `Json.Failure` are the reasons.
-/

namespace ChartBoard.Json

open Number

/-- Why a text cannot be read. -/
inductive Failure where
  /-- It is not in the interchange format. -/
  | malformed
  /-- An integer in it has too many digits. -/
  | tooManyDigits (count : Nat)
  /-- A list or an object in it lies too deep. -/
  | tooDeep (object : Bool)
deriving DecidableEq, Repr

/-- What is read at the start of a text, and what follows it. -/
abbrev Reading (α : Type) := Except Failure (α × List Char)

/-- What was read with a function applied to it. -/
def Reading.map {α β : Type} (f : α → β) (r : Reading α) : Reading β :=
  Except.map (fun p => (f p.1, p.2)) r

/-- True of the characters allowed between tokens. -/
def isSpace (c : Char) : Bool := c == ' ' || c == '\t' || c == '\n' || c == '\r'

/-- The text without the space at its start. -/
def skipSpace (cs : List Char) : List Char := cs.dropWhile isSpace

/-! ## Texts -/

/-- The value of a hexadecimal digit. -/
def hexValue? (c : Char) : Option Nat :=
  if '0' ≤ c ∧ c ≤ '9' then some (c.toNat - 0x30)
  else if 'a' ≤ c ∧ c ≤ 'f' then some (c.toNat - 0x57)
  else if 'A' ≤ c ∧ c ≤ 'F' then some (c.toNat - 0x37)
  else none

/-- The number that four hexadecimal digits spell. -/
def hexUnit? (a b c d : Char) : Option Nat := do
  return (((← hexValue? a) * 16 + (← hexValue? b)) * 16 + (← hexValue? c)) * 16 + (← hexValue? d)

/-- The character of a one-letter escape. -/
def escaped? (c : Char) : Option Char :=
  if c = '\x22' || c = '\\' || c = '/' then some c
  else if c = 'b' then some (Char.ofNat 0x8)
  else if c = 'f' then some (Char.ofNat 0xc)
  else if c = 'n' then some '\n'
  else if c = 'r' then some '\r'
  else if c = 't' then some '\t'
  else none

/-- The code units of a text up to its closing quote, and what follows it. -/
def readUnits? (units : List Nat) : List Char → Option (List Nat × List Char)
  | [] => none
  | '\x22' :: rest => some (units.reverse, rest)
  | '\\' :: 'u' :: a :: b :: c :: d :: rest =>
    match hexUnit? a b c d with
    | some unit => readUnits? (unit :: units) rest
    | none => none
  | '\\' :: c :: rest =>
    match escaped? c with
    | some e => readUnits? (e.toNat :: units) rest
    | none => none
  | c :: rest => if c.toNat < 0x20 || c = '\\' then none else readUnits? (c.toNat :: units) rest

/-- The characters of code units: a high half followed by a low half is one character, a half
that stands alone becomes the replacement character. -/
def joinUnits : List Nat → List Char
  | [] => []
  | [u] => [if 0xd800 ≤ u ∧ u < 0xe000 then Char.ofNat 0xfffd else Char.ofNat u]
  | u :: v :: rest =>
    if 0xd800 ≤ u ∧ u < 0xdc00 ∧ 0xdc00 ≤ v ∧ v < 0xe000 then
      Char.ofNat (0x10000 + (u - 0xd800) * 0x400 + (v - 0xdc00)) :: joinUnits rest
    else
      (if 0xd800 ≤ u ∧ u < 0xe000 then Char.ofNat 0xfffd else Char.ofNat u) :: joinUnits (v :: rest)

/-- A text after its opening quote. -/
def readText? (cs : List Char) : Option (String × List Char) :=
  (readUnits? [] cs).map fun (units, rest) => (String.ofList (joinUnits units), rest)

/-! ## Numbers -/

/-- The number that ASCII digits spell. -/
def digitsValue (cs : List Char) : Nat := cs.foldl (fun n c => n * 10 + (c.toNat - 0x30)) 0

/-- The digits at the start of a text, and what follows them. -/
def spanDigits (cs : List Char) : List Char × List Char :=
  (cs.takeWhile Char.isDigit, cs.dropWhile Char.isDigit)

/-- The decimals after a point; without any the point is not part of the number. -/
def readDecimals (cs : List Char) : List Char × List Char :=
  match cs with
  | '.' :: rest =>
    let (digits, after) := spanDigits rest
    if digits.isEmpty then ([], cs) else (digits, after)
  | _ => ([], cs)

/-- An exponent, if one with digits follows. -/
def readExponent? (cs : List Char) : Option (Int × List Char) :=
  match cs with
  | c :: rest =>
    if c = 'e' || c = 'E' then
      let (negative, rest) := match rest with
        | '-' :: rest => (true, rest)
        | '+' :: rest => (false, rest)
        | rest => (false, rest)
      let (digits, after) := spanDigits rest
      if digits.isEmpty then none
      else some ((if negative then -(digitsValue digits : Int) else digitsValue digits), after)
    else none
  | [] => none

/-- An integer of which the digits are read. -/
def integerOf (negative : Bool) (digits rest : List Char) : Reading Datum :=
  let n : Int := digitsValue digits
  if mostDigits < digits.length then .error (.tooManyDigits digits.length)
  else .ok (.int (if negative then -n else n), rest)

/-- A number after its sign. -/
def readNumber (negative : Bool) (cs : List Char) : Reading Datum :=
  let (whole, rest) := match cs with
    | '0' :: rest => (['0'], rest)
    | _ => spanDigits cs
  if whole.isEmpty then .error .malformed
  else
    let (decimals, rest) := readDecimals rest
    match decimals, readExponent? rest with
    | [], none => integerOf negative whole rest
    | decimals, exponent =>
      let (e, rest) := exponent.getD (0, rest)
      let x := nearest (digitsValue (whole ++ decimals)) (e - decimals.length)
      .ok (.float (if negative then -x else x), rest)

/-- The words that stand for values. -/
def words : List (String × Datum) :=
  [("null", .null), ("true", .bool true), ("false", .bool false), ("NaN", .float nan),
   ("Infinity", .float infinity), ("-Infinity", .float (-infinity))]

/-- A word at the start of a text. -/
def readWord? (cs : List Char) : Option (Datum × List Char) :=
  words.findSome? fun (word, v) => (Text.startsWith? word.toList cs).map fun rest => (v, rest)

/-- A number or a word. -/
def readScalar (cs : List Char) : Reading Datum :=
  match readWord? cs with
  | some r => .ok r
  | none =>
    match cs with
    | '-' :: rest => readNumber true rest
    | _ => readNumber false cs

/-! ## Values -/

mutual

/-- A value at the start of a text, in which lists and objects may nest `levels` deep.  Every step
takes a character, so the length of the text is fuel enough. -/
def readValue : (fuel levels : Nat) → List Char → Reading Datum
  | 0, _, _ => .error .malformed
  | fuel + 1, levels, cs =>
    match cs with
    | '\x22' :: rest =>
      match readText? rest with
      | some (s, rest) => .ok (.text s, rest)
      | none => .error .malformed
    | '[' :: rest => readList fuel levels (skipSpace rest)
    | '\x7b' :: rest => readObject fuel levels (skipSpace rest)
    | _ => readScalar cs

/-- A list after its opening bracket. -/
def readList : (fuel levels : Nat) → List Char → Reading Datum
  | fuel + 1, levels + 1, cs =>
    match cs with
    | ']' :: rest => .ok (.list [], rest)
    | rest => (readItems fuel levels rest).map .list
  | _, 0, _ => .error (.tooDeep false)
  | 0, _, _ => .error .malformed

/-- An object after its opening brace. -/
def readObject : (fuel levels : Nat) → List Char → Reading Datum
  | fuel + 1, levels + 1, cs =>
    match cs with
    | '\x7d' :: rest => .ok (.object [], rest)
    | rest => (readMembers fuel levels [] rest).map .object
  | _, 0, _ => .error (.tooDeep true)
  | 0, _, _ => .error .malformed

/-- The items of a list up to its end. -/
def readItems : (fuel levels : Nat) → List Char → Reading (List Datum)
  | 0, _, _ => .error .malformed
  | fuel + 1, levels, cs =>
    match readValue fuel levels cs with
    | .error failure => .error failure
    | .ok (item, rest) =>
      match skipSpace rest with
      | ']' :: rest => .ok ([item], rest)
      | ',' :: rest => (readItems fuel levels (skipSpace rest)).map (item :: ·)
      | _ => .error .malformed

/-- The members of an object up to its end, set in `members` one after the other. -/
def readMembers : (fuel levels : Nat) → Record → List Char → Reading Record
  | 0, _, _, _ => .error .malformed
  | fuel + 1, levels, members, cs =>
    match cs with
    | '\x22' :: rest =>
      match readText? rest with
      | none => .error .malformed
      | some (name, rest) =>
        match skipSpace rest with
        | ':' :: rest =>
          match readValue fuel levels (skipSpace rest) with
          | .error failure => .error failure
          | .ok (value, rest) =>
            let members := members.set name value
            match skipSpace rest with
            | '\x7d' :: rest => .ok (members, rest)
            | ',' :: rest => readMembers fuel levels members (skipSpace rest)
            | _ => .error .malformed
        | _ => .error .malformed
    | _ => .error .malformed

end

/-- The value that a whole text spells, in which lists and objects may nest `levels` deep. -/
def read (levels : Nat) (s : String) : Except Failure Datum :=
  let cs := s.toList
  match readValue (3 * cs.length + 3) levels (skipSpace cs) with
  | .ok (v, rest) => if (skipSpace rest).isEmpty then .ok v else .error .malformed
  | .error failure => .error failure

end ChartBoard.Json
