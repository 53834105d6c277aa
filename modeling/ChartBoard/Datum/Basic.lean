import ChartBoard.Keyed
import ChartBoard.Number.Decimal
import ChartBoard.Calendar.Moment

/-!
# Data

The values that tables, chart specifications and requests are made of: those of the interchange
format (nulls, truth values, numbers, texts, lists and objects) and the further ones that only a
database hands out (decimals, dates, moments, lengths of time and times of day).  An object keeps
its members in order.

* `Record` is the type of an object's members, with `get?`, `set` and `erase`.
* `Datum.truthy` is the reading of a value as a condition.
-/

namespace ChartBoard

open Number Calendar

/-- A value. -/
inductive Datum where
  | null
  | bool (b : Bool)
  | int (n : Int)
  | float (x : Float)
  | text (s : String)
  | list (items : List Datum)
  | object (members : List (String × Datum))
  | decimal (d : Decimal)
  | date (d : Date)
  | moment (m : Moment)
  | duration (d : Duration)
  | clock (c : Clock)

instance : Inhabited Datum := ⟨.null⟩

/-- The members of an object, in order, each name once. -/
abbrev Record := List (String × Datum)

namespace Record

/-- The value of a member. -/
def get? (r : Record) (name : String) : Option Datum := Keyed.get? r name

/-- The value of a member, null when it is absent. -/
def get (r : Record) (name : String) : Datum := (get? r name).getD .null

/-- True when there is such a member. -/
def has (r : Record) (name : String) : Bool := (get? r name).isSome

/-- The members with one value changed in its place, or added at the end. -/
def set (r : Record) (name : String) (value : Datum) : Record := Keyed.set r name value

/-- The members with one added at the end unless it is there already. -/
def setIfAbsent (r : Record) (name : String) (value : Datum) : Record :=
  if has r name then r else set r name value

/-- The members of `r` with those of `other` set in turn. -/
def merge (r other : Record) : Record := Keyed.setAll r other

/-- The names of the members. -/
def names (r : Record) : List String := r.map (·.1)

end Record

namespace Datum

/-- The text of a text value. -/
def asText? : Datum → Option String
  | text s => some s
  | _ => none

/-- The items of a list. -/
def asList? : Datum → Option (List Datum)
  | list items => some items
  | _ => none

/-- The members of an object. -/
def asRecord? : Datum → Option Record
  | object members => some members
  | _ => none

/-- The members of an object, none for any other value. -/
def members (v : Datum) : Record := v.asRecord?.getD []

/-- The value of a member; null when the value is no object or lacks it. -/
def get (v : Datum) (name : String) : Datum := v.members.get name

/-- True of null. -/
def isNull : Datum → Bool
  | null => true
  | _ => false

/-- True of objects. -/
def isObject : Datum → Bool
  | object _ => true
  | _ => false

/-- True of numbers and truth values. -/
def isNumber : Datum → Bool
  | int _ | float _ | bool _ => true
  | _ => false

/-- A list of texts. -/
def texts (xs : List String) : Datum := list (xs.map text)

/-- A text, or null. -/
def ofText? : Option String → Datum
  | some s => text s
  | none => null

/-- A value read as a condition: null, false, zero and what is empty are false. -/
def truthy : Datum → Bool
  | null => false
  | bool b => b
  | int n => n != 0
  | float x => x != 0
  | text s => !s.isEmpty
  | list items => !items.isEmpty
  | object members => !members.isEmpty
  | decimal d => !d.isZero
  | duration d => d.microseconds != 0
  | date _ | moment _ | clock _ => true

/-- The value itself when it reads as true, else another. -/
def orElse (v other : Datum) : Datum := if v.truthy then v else other

end Datum

end ChartBoard
