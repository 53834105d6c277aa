import ChartBoard.Datum.Basic
import ChartBoard.Text.Quoted

/-!
# Display of data

The text of a value.  Texts stand for themselves, and only inside a list or an object are they
quoted; dates, decimals and their like show their kind there as well.

Two limits are left out, as no value that is displayed reaches them.  An integer of more than
`Number.mostDigits` digits has no text: in what is read such integers are refused, the engine has
none, and where a computation may come to one there is `Datum.writableInteger`.  A value that nests
too deep has none either, but one that nests no deeper than `Limits.reading` has.

* `Datum.display` is the text of a value, `Datum.nested` its text inside another.
* `Datum.label` is the same with nothing for null.
* `Datum.key` tells values apart by kind and text.
-/

namespace ChartBoard

open Number Calendar

namespace Datum

/-- The name of the kind of a value. -/
def kindName : Datum → String
  | null => "NoneType"
  | bool _ => "bool"
  | int _ => "int"
  | float _ => "float"
  | text _ => "str"
  | list _ => "list"
  | object _ => "dict"
  | decimal _ => "Decimal"
  | date _ => "date"
  | moment _ => "datetime"
  | duration _ => "timedelta"
  | clock _ => "time"

/-- A length of time inside another value. -/
def nestedDuration (d : Duration) : String :=
  let part (name : String) (n : Int) : List String :=
    if n = 0 then [] else [name ++ "=" ++ toString n]
  let parts := part "days" d.days ++ part "seconds" d.seconds ++ part "microseconds" d.fraction
  "datetime.timedelta(" ++ (if parts.isEmpty then "0" else ", ".intercalate parts) ++ ")"

/-- The units of a time, without seconds where those and their fraction are zero. -/
def nestedClockUnits (c : Clock) : List String :=
  [toString c.hour, toString c.minute]
    ++ (if c.second = 0 && c.microsecond = 0 then [] else [toString c.second])
    ++ (if c.microsecond = 0 then [] else [toString c.microsecond])

/-- A date inside another value. -/
def nestedDateUnits (d : Date) : List String := [toString d.year, toString d.month, toString d.day]

/-- A moment inside another value. -/
def nestedMoment (m : Moment) : String :=
  let zone := match m.offset with
    | none => []
    | some o =>
      if o.microseconds = 0 then ["tzinfo=datetime.timezone.utc"]
      else ["tzinfo=datetime.timezone(" ++ nestedDuration ⟨o.microseconds⟩ ++ ")"]
  "datetime.datetime("
    ++ ", ".intercalate (nestedDateUnits m.date ++ nestedClockUnits m.clock ++ zone) ++ ")"

/-- The texts of truth values. -/
def boolText (b : Bool) : String := if b then "True" else "False"

mutual

/-- The text of a value inside a list or an object. -/
def nested : Datum → String
  | null => "None"
  | bool b => boolText b
  | int n => toString n
  | float x => floatText x
  | text s => Text.quoted s
  | list items => "[" ++ ", ".intercalate (nestedItems items) ++ "]"
  | object members => "\x7b" ++ ", ".intercalate (nestedMembers members) ++ "\x7d"
  | decimal d => "Decimal('" ++ d.text ++ "')"
  | date d => "datetime.date(" ++ ", ".intercalate (nestedDateUnits d) ++ ")"
  | moment m => nestedMoment m
  | duration d => nestedDuration d
  | clock c => "datetime.time(" ++ ", ".intercalate (nestedClockUnits c) ++ ")"

/-- The texts of the items of a list. -/
def nestedItems : List Datum → List String
  | [] => []
  | item :: rest => nested item :: nestedItems rest

/-- The texts of the members of an object. -/
def nestedMembers : List (String × Datum) → List String
  | [] => []
  | (name, value) :: rest => (Text.quoted name ++ ": " ++ nested value) :: nestedMembers rest

end

/-- The text of a value. -/
def display : Datum → String
  | text s => s
  | decimal d => d.text
  | date d => d.iso
  | moment m => m.iso " "
  | duration d => d.text
  | clock c => c.iso
  | v => nested v

/-- The text of a value, with nothing for null. -/
def label (v : Datum) : String := if v.isNull then "" else v.display

/-- The kind and the text of a value, which together identify it. -/
def key (v : Datum) : String := v.kindName ++ ":" ++ v.display

end Datum

end ChartBoard
