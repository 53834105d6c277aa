import ChartBoard.Datum.Basic
import ChartBoard.Fault

/-!
# Items of data

* `Datum.items` are the values that a value is made of, where it is made of any.
* `Datum.itemsIfAny` reads what is absent or empty as no items.
-/

namespace ChartBoard.Datum

/-- The items of a list, the names of an object or the characters of a text. -/
def items : Datum → Except Fault (List Datum)
  | list items => .ok items
  | object members => .ok (members.map fun m => text m.1)
  | text s => .ok (s.toList.map fun c => text c.toString)
  | _ => .error .wrongKind

/-- The items of a value, none when it reads as false. -/
def itemsIfAny (v : Datum) : Except Fault (List Datum) := if v.truthy then v.items else .ok []

end ChartBoard.Datum
