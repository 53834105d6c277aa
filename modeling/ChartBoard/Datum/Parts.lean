import ChartBoard.Datum.Basic
import ChartBoard.Fault
import ChartBoard.Number.Binary

/-!
# Parts of data

A value, its items and members, theirs and so on.

* `Datum.everyPart` is true when all parts have a property.
* `Datum.isFinite` and `Datum.inRange` are such properties of numbers.
* `Datum.levels` is how deep the parts lie; `Record.copied` is a copy of what nests not too deep.
-/

namespace ChartBoard

namespace Datum

mutual

/-- True when a property holds of all parts of a value, the value itself included. -/
def everyPart (p : Datum → Bool) : Datum → Bool
  | list items => p (list items) && everyItem p items
  | object members => p (object members) && everyMember p members
  | v => p v

/-- True when a property holds of all parts of the items. -/
def everyItem (p : Datum → Bool) : List Datum → Bool
  | [] => true
  | item :: rest => everyPart p item && everyItem p rest

/-- True when a property holds of all parts of the members. -/
def everyMember (p : Datum → Bool) : List (String × Datum) → Bool
  | [] => true
  | (_, v) :: rest => everyPart p v && everyMember p rest

end

/-- True unless the value is a double that is no finite number. -/
def isFiniteNumber : Datum → Bool
  | float x => x.isFinite
  | _ => true

/-- True when all doubles in a value are finite. -/
def isFinite (v : Datum) : Bool := v.everyPart isFiniteNumber

/-- True unless the value is an integer beyond the range of doubles. -/
def isInRange : Datum → Bool
  | int n => decide (n.natAbs < Number.overflowBound)
  | _ => true

/-- True when all integers in a value lie in the range of doubles. -/
def inRange (v : Datum) : Bool := v.everyPart isInRange

mutual

/-- How deep lists and objects nest in a value. -/
def levels : Datum → Nat
  | list items => itemLevels items + 1
  | object members => memberLevels members + 1
  | _ => 0

/-- How deep they nest in any of the items. -/
def itemLevels : List Datum → Nat
  | [] => 0
  | item :: rest => max (levels item) (itemLevels rest)

/-- How deep they nest in any of the members. -/
def memberLevels : List (String × Datum) → Nat
  | [] => 0
  | (_, v) :: rest => max (levels v) (memberLevels rest)

end

end Datum

/-- A copy of an object in which lists and objects may nest `most` deep. -/
def Record.copied (most : Nat) (r : Record) : Except Fault Record :=
  if (Datum.object r).levels ≤ most then .ok r else .error .tooDeepToCopy

end ChartBoard
