import ChartBoard.Datum.Basic
import ChartBoard.Form.Problem
import ChartBoard.Number.Reading
import ChartBoard.Text.Case
import ChartBoard.Text.Search

/-!
# Reading forms

Typed values from loosely typed ones.  Every reader either gives a value or says what is wrong and
where; the problems of several parts are listed together.

* `text`, `integer`, `bool`, `listOf`, `textMap` and `either` read parts.
* `Lookup` finds a member by the names it may have.
* `required` and `withDefault` read members of an object.
-/

namespace ChartBoard.Form

open Checked (problem)

/-! ## Parts -/

/-- A reader of a part. -/
abbrev Reader (α : Type) := Datum → Checked α

/-- A text. -/
def text : Reader String
  | .text s => .ok s
  | _ => problem .notText

/-- A text with at least `least` and at most `most` characters. -/
def textOfLength (least : Nat) (most : Option Nat) : Reader String := fun v => do
  let s ← text v
  if s.length < least then problem .tooShort
  else if (most.map (decide <| s.length > ·)).getD false then problem .tooLong
  else .ok s

/-- An integer in its plain form: a minus sign if it is negative, and digits of which only a lone
one may be zero. -/
def plainInteger (cs : List Char) : Checked Int :=
  let (negative, digits) := match cs with
    | '-' :: rest => (true, rest)
    | _ => (false, cs)
  let run := digits.takeWhile Char.isDigit
  let sized (n : Nat) : Int := if negative then -(n : Int) else n
  match run with
  | [] => problem .unreadableInteger
  | '0' :: _ => if digits.length = 1 then .ok 0 else problem .unreadableInteger
  | _ =>
    if Number.mostDigits < run.length + (if negative then 1 else 0) then problem .hugeInteger
    else if run.length < digits.length then problem .unreadableInteger
    else .ok (sized (run.foldl (fun n c => n * 10 + (c.toNat - 0x30)) 0))

/-- What follows the zeros and underscores after a leading zero.  A number or a minus sign stands
for itself, a point takes the character before it along, and where nothing follows the last
character stays. -/
def afterZeros? (previous : Char) : List Char → Option (List Char)
  | [] => some [previous]
  | c :: rest =>
    if c = '0' || c = '_' then afterZeros? c rest
    else if c.isDigit || c = '-' then some (c :: rest)
    else if c = '.' then some (previous :: c :: rest)
    else none

/-- A number without leading zeros; it starts with a digit or a minus sign. -/
def withoutZeros? : List Char → Option (List Char)
  | [] => none
  | c :: rest =>
    if c = '0' then afterZeros? c rest
    else if c.isDigit || c = '-' then some (c :: rest)
    else none

/-- A number without its decimals, where there are some and all are zeros. -/
def withoutDecimals (cs : List Char) : List Char :=
  match cs.dropWhile (· != '.') with
  | _ :: d :: rest => if (d :: rest).all (· == '0') then cs.takeWhile (· != '.') else cs
  | _ => cs

/-- True of a text with single underscores that all stand inside it. -/
def hasInnerUnderscores (cs : List Char) : Bool :=
  cs.contains '_' && cs.head? != some '_' && cs.getLast? != some '_'
    && (cs.zip (cs.drop 1)).all fun (c, d) => c != '_' || d != '_'

/-- The plain form of an integer that is written otherwise: with white space around it, a plus
sign, leading zeros, decimals that are zeros or underscores between its digits. -/
def plainForm? (cs : List Char) : Option (List Char) := do
  let trimmed := Number.withoutSpace cs
  let unsigned ← match trimmed with
    | '+' :: '-' :: _ => none
    | '+' :: rest => some rest
    | _ => some trimmed
  let short := withoutDecimals (← withoutZeros? unsigned)
  if hasInnerUnderscores short then some (short.filter (· != '_')) else some short

/-- The integer that a text spells, in its plain form or another.  Only the plain form tells numbers
with too many digits from other texts. -/
def integerOfText (s : String) : Checked Int :=
  match plainInteger s.toList with
  | .ok n => .ok n
  | .error problems =>
    if problems.any (·.kind == .hugeInteger) then .error problems
    else match (plainForm? s.toList).map plainInteger with
      | some (.ok n) => .ok n
      | _ => problem .unreadableInteger

/-- The integer that a finite double is, if it is one. -/
def integerOfFloat? (x : Float) : Option Int :=
  (Number.Binary.ofFloat? x).bind fun b =>
    if b.num % b.den = 0 then
      let n : Int := (b.num / b.den : Nat)
      some (if b.negative then -n else n)
    else none

/-- The magnitude from which on a double is not read as an integer. -/
def wordBound : Nat := Number.power 2 63

/-- An integer that a double means: one without a fraction and below the bound. -/
def integerOfDouble (x : Float) : Checked Int :=
  if !x.isFinite then problem .notFinite
  else match integerOfFloat? x with
    | some n => if n.natAbs < wordBound then .ok n else problem .hugeInteger
    | none => problem .fractional

/-- An integer that a decimal means. -/
def integerOfDecimal (d : Number.Decimal) : Checked Int :=
  match d.truncated? with
  | none => problem .notFinite
  | some n => if d.compare? (.ofInt n) = some .eq then .ok n else problem .fractional

/-- An integer: itself, a truth value, a double or a decimal without a fraction, or a text that
spells one. -/
def integer : Reader Int
  | .int n => .ok n
  | .bool b => .ok (if b then 1 else 0)
  | .float x => integerOfDouble x
  | .decimal d => integerOfDecimal d
  | .text s => integerOfText s
  | _ => problem .notInteger

/-- An integer between two bounds. -/
def integerBetween (least most : Int) : Reader Int := fun v => do
  let n ← integer v
  if n < least then problem .tooSmall
  else if most < n then problem .tooLarge
  else .ok n

/-- The words for false and for true. -/
def boolWords : List (String × Bool) :=
  [("0", false), ("off", false), ("f", false), ("false", false), ("n", false), ("no", false),
   ("1", true), ("on", true), ("t", true), ("true", true), ("y", true), ("yes", true)]

/-- The truth value that an integer means: zero or one. -/
def boolOfInteger (n : Int) : Checked Bool :=
  if n = 0 then .ok false else if n = 1 then .ok true else problem .unreadableBool

/-- The truth value that a double means. -/
def boolOfDouble (x : Float) : Checked Bool :=
  match integerOfDouble x with
  | .ok n => boolOfInteger n
  | .error _ => problem .notBool

/-- A truth value: itself, the number zero or one, or a word for it in any case. -/
def bool : Reader Bool
  | .bool b => .ok b
  | .int n => if -(wordBound : Int) ≤ n && n < wordBound then boolOfInteger n else problem .notBool
  | .float x => boolOfDouble x
  | .decimal d => (d.toFloat?.map boolOfDouble).getD (problem .notBool)
  | .text s =>
    match boolWords.lookup (String.ofList (s.toList.map Char.toLower)) with
    | some b => .ok b
    | none => problem .unreadableBool
  | _ => problem .notBool

/-- Anything. -/
def anything : Reader Datum := .ok

/-- Null, or what another reader reads. -/
def nullable {α : Type} (read : Reader α) : Reader (Option α)
  | .null => .ok none
  | v => (read v).map some

/-- The items of a list from a position on. -/
def items {α : Type} (read : Reader α) : (position : Nat) → List Datum → Checked (List α)
  | _, [] => .ok []
  | i, v :: rest =>
    .and (· :: ·) (Checked.within (.item i) (read v)) (items read (i + 1) rest)

/-- A list of parts. -/
def listOf {α : Type} (read : Reader α) : Reader (List α)
  | .list vs => items read 0 vs
  | _ => problem .notList

/-- The members of an object, each read alike. -/
def membersOf {α : Type} (read : Reader α) : List (String × Datum) → Checked (List (String × α))
  | [] => .ok []
  | (name, v) :: rest =>
    .and (fun a rest => (name, a) :: rest) (Checked.within (.member name) (read v))
      (membersOf read rest)

/-- An object whose members are texts. -/
def textMap : Reader (List (String × String))
  | .object members => membersOf text members
  | _ => problem .notObject

/-- An object with any members. -/
def objectOf : Reader Record
  | .object members => .ok members
  | _ => problem .notObject

/-- What the first of two named readers reads, else what the second does, else the problems of
both. -/
def either {α : Type} (name₁ : String) (read₁ : Reader α) (name₂ : String) (read₂ : Reader α) :
    Reader α := fun v =>
  match Checked.within (.member name₁) (read₁ v), Checked.within (.member name₂) (read₂ v) with
  | .ok a, _ => .ok a
  | _, .ok b => .ok b
  | .error p, .error q => .error (p ++ q)

/-! ## Members -/

/-- The names a member may have.  The first one wins when both are there. -/
structure Lookup where
  wire : String
  plain : String
deriving DecidableEq, Repr

/-- A member with a single name. -/
def Lookup.ofName (name : String) : Lookup := ⟨name, name⟩

/-- The name under which a member is found, and its value. -/
def Lookup.find? (l : Lookup) (r : Record) : Option (String × Datum) :=
  match r.get? l.wire with
  | some v => some (l.wire, v)
  | none => (r.get? l.plain).map fun v => (l.plain, v)

/-- A member that must be there. -/
def required {α : Type} (r : Record) (l : Lookup) (read : Reader α) : Checked α :=
  match l.find? r with
  | some (name, v) => Checked.within (.member name) (read v)
  | none => Checked.within (.member l.wire) (problem .missing)

/-- A member with a value to take when it is absent. -/
def withDefault {α : Type} (r : Record) (l : Lookup) (default : α) (read : Reader α) : Checked α :=
  match l.find? r with
  | some (name, v) => Checked.within (.member name) (read v)
  | none => .ok default

end ChartBoard.Form
