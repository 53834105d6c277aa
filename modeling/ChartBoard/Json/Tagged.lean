import ChartBoard.Calendar.Reading
import ChartBoard.Datum.Basic
import ChartBoard.Json.Reading
import ChartBoard.Number.Reading
import ChartBoard.Text.Quoted

/-!
# Tagged values

All values in the interchange format.  Those it has no notation for are written as objects with a
single member, whose name is a tag that tells the kind of the value: doubles that are not finite,
decimals, dates, moments, lengths of time and times of day.

* `Datum.untagged` gives back the values that tags stand for.
* `Datum.tagged` writes a value without any space, members by name.
-/

namespace ChartBoard

open Number Calendar

/-! ## Reading -/

/-- The value that a tag and its content stand for. -/
def Datum.ofTag? (tag : String) (content : Datum) : Option Datum :=
  match tag, content with
  | "$float", .text s => (floatOfText? s).map .float
  | "$decimal", .text s => (Decimal.read? s).map .decimal
  | "$decimal", .int n => some (.decimal (.ofInt n))
  | "$decimal", .float x => some (.decimal (.ofFloat x))
  | "$date", .text s => (Date.read? s).map .date
  | "$datetime", .text s => (Moment.read? s).map .moment
  | "$time", .text s => (Clock.read? s).map .clock
  | "$timedelta", .int n => some (.duration ⟨n * 1000000⟩)
  | "$timedelta", .float x => (Duration.ofSeconds? x).map .duration
  | _, _ => none

mutual

/-- A value with all tagged objects in it replaced by what they stand for. -/
def Datum.untagged : Datum → Datum
  | .list items => .list (untaggedItems items)
  | .object [(name, v)] => (Datum.ofTag? name v).getD (.object [(name, Datum.untagged v)])
  | .object members => .object (untaggedMembers members)
  | v => v

/-- The items of a list without tags. -/
def untaggedItems : List Datum → List Datum
  | [] => []
  | v :: rest => Datum.untagged v :: untaggedItems rest

/-- The members of an object without tags. -/
def untaggedMembers : List (String × Datum) → List (String × Datum)
  | [] => []
  | (name, v) :: rest => (name, Datum.untagged v) :: untaggedMembers rest

end

/-! ## Writing -/

/-- A character as it stands in a text: only quotes, backslashes and control characters are
written otherwise. -/
def plainChar (c : Char) : String :=
  if c = '\x22' then "\\\x22"
  else if c = '\\' then "\\\\"
  else if c = '\n' then "\\n"
  else if c = '\r' then "\\r"
  else if c = '\t' then "\\t"
  else if c.toNat = 0x8 then "\\b"
  else if c.toNat = 0xc then "\\f"
  else if c.toNat < 0x20 then "\\u" ++ Text.hexDigits 4 c.toNat
  else c.toString

/-- A text in quotes. -/
def plainText (s : String) : String := "\x22" ++ String.join (s.toList.map plainChar) ++ "\x22"

/-- An object with these written members. -/
def plainObject (members : List (String × String)) : String :=
  "\x7b" ++ ",".intercalate (members.map fun (name, v) => plainText name ++ ":" ++ v) ++ "\x7d"

/-- A tag with its content. -/
def tag (name content : String) : String := plainObject [(name, content)]

mutual

/-- A value in the interchange format. -/
def Datum.tagged : Datum → String
  | .null => "null"
  | .bool b => if b then "true" else "false"
  | .int n => toString n
  | .float x => if x.isFinite then floatText x else tag "$float" (plainText (floatText x))
  | .text s => plainText s
  | .list items => "[" ++ ",".intercalate (taggedItems items) ++ "]"
  | .object members => plainObject ((taggedMembers members).mergeSort fun a b => a.1 ≤ b.1)
  | .decimal d => tag "$decimal" (plainText d.text)
  | .date d => tag "$date" (plainText d.iso)
  | .moment m => tag "$datetime" (plainText (m.iso "T"))
  | .duration d => tag "$timedelta" (floatText d.toSeconds)
  | .clock c => tag "$time" (plainText c.iso)

/-- The items of a list as written. -/
def taggedItems : List Datum → List String
  | [] => []
  | v :: rest => Datum.tagged v :: taggedItems rest

/-- The members of an object as written. -/
def taggedMembers : List (String × Datum) → List (String × String)
  | [] => []
  | (name, v) :: rest => (name, Datum.tagged v) :: taggedMembers rest

end

end ChartBoard
