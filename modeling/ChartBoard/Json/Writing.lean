import ChartBoard.Datum.Display

/-!
# Writing the interchange format

Values written with ASCII characters only, on one line or with one member or item a line.  Values
the format has no form for are written as their text.

* `Json.compact` writes on one line, `Json.indented` with one space more at each level.
-/

namespace ChartBoard.Json

open Number

/-- A code unit as an escape. -/
def unitEscape (unit : Nat) : String := "\\u" ++ Text.hexDigits 4 unit

/-- One character inside a written text. -/
def writtenChar (c : Char) : String :=
  if c = '\x22' then "\\\x22"
  else if c = '\\' then "\\\\"
  else if c = '\n' then "\\n"
  else if c = '\r' then "\\r"
  else if c = '\t' then "\\t"
  else if c.toNat = 0x8 then "\\b"
  else if c.toNat = 0xc then "\\f"
  else if 0x20 ≤ c.toNat && c.toNat < 0x7f then c.toString
  else if c.toNat < 0x10000 then unitEscape c.toNat
  else
    let n := c.toNat - 0x10000
    unitEscape (0xd800 + n / 0x400) ++ unitEscape (0xdc00 + n % 0x400)

/-- A text between quotes. -/
def writtenText (s : String) : String :=
  "\x22" ++ String.join (s.toList.map writtenChar) ++ "\x22"

/-- A double; unlike elsewhere, what is no finite number is spelt out. -/
def writtenFloat (x : Float) : String :=
  if x.isNaN then "NaN"
  else if x.isFinite then floatText x
  else if x < 0 then "-Infinity" else "Infinity"

/-- The parts of a list or an object between its brackets: on one line, or on lines of their own
with one space more than the line the bracket stands on. -/
def bracketed (indent : Option Nat) (opening closing : String) (parts : List String) : String :=
  if parts.isEmpty then opening ++ closing
  else match indent with
    | none => opening ++ ", ".intercalate parts ++ closing
    | some level =>
      let line (n : Nat) : String := "\n" ++ String.ofList (List.replicate n ' ')
      opening ++ line (level + 1) ++ ("," ++ line (level + 1)).intercalate parts
        ++ line level ++ closing

mutual

/-- A value; `indent` is the level of its line, or nothing on one line. -/
def written (indent : Option Nat) : Datum → String
  | .null => "null"
  | .bool b => if b then "true" else "false"
  | .int n => toString n
  | .float x => writtenFloat x
  | .text s => writtenText s
  | .list items => bracketed indent "[" "]" (writtenItems (indent.map (· + 1)) items)
  | .object members =>
    bracketed indent "\x7b" "\x7d" (writtenMembers (indent.map (· + 1)) members)
  | .decimal d => writtenText d.text
  | .date d => writtenText d.iso
  | .moment m => writtenText (m.iso " ")
  | .duration d => writtenText d.text
  | .clock c => writtenText c.iso

/-- The items of a list. -/
def writtenItems (indent : Option Nat) : List Datum → List String
  | [] => []
  | item :: rest => written indent item :: writtenItems indent rest

/-- The members of an object. -/
def writtenMembers (indent : Option Nat) : List (String × Datum) → List String
  | [] => []
  | (name, value) :: rest =>
    (writtenText name ++ ": " ++ written indent value) :: writtenMembers indent rest

end

/-- A value on one line. -/
def compact (v : Datum) : String := written none v

/-- A value with every item and member on a line of its own. -/
def indented (v : Datum) : String := written (some 0) v

end ChartBoard.Json
