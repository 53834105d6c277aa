import ChartBoard.Datum.Display
import ChartBoard.Fault
import ChartBoard.Text.Search

/-!
# Order of data

Values of one kind have an order: numbers by their exact value, texts by their characters, dates,
moments, lengths of time and times of day by time, lists by their first different items.

* `Datum.same` says when two values are equal.
* `Datum.isAfter` says when one value comes after another; values of different kinds have no order.
-/

namespace ChartBoard

open Number Calendar

/-! ## Times -/

namespace Calendar

/-- The microseconds since midnight. -/
def Clock.microseconds (c : Clock) : Nat :=
  ((c.hour * 60 + c.minute) * 60 + c.second) * 1000000 + c.microsecond

/-- The microseconds on the moment's own clock. -/
def Moment.local (m : Moment) : Int := (m.date.ordinal * 86400000000 + m.clock.microseconds : Nat)

/-- The microseconds by universal time, where the moment has an offset. -/
def Moment.universal? (m : Moment) : Option Int := m.offset.map fun o => m.local - o.microseconds

/-- The order of two moments that both have an offset or both lack one. -/
def Moment.compare? (a b : Moment) : Option Ordering :=
  match a.universal?, b.universal? with
  | some x, some y => some (compare x y)
  | none, none => some (compare a.local b.local)
  | _, _ => none

end Calendar

namespace Datum

/-! ## Numbers -/

/-- The exact value of a number. -/
def measure? : Datum → Option Decimal
  | bool b => some (.ofInt (if b then 1 else 0))
  | int n => some (.ofInt n)
  | float x => some (.ofFloat x)
  | decimal d => some d
  | _ => none

/-- True of a decimal. -/
def isDecimal : Datum → Bool
  | decimal _ => true
  | _ => false

/-! ## Equality -/

mutual

/-- True of equal values: numbers of equal value, whatever their kind, and otherwise values of one
kind with equal content. -/
def same : Datum → Datum → Bool
  | null, null => true
  | text s, text t => s == t
  | list xs, list ys => sameItems xs ys
  | object xs, object ys => xs.length == ys.length && sameMembers xs ys
  | date a, date b => a == b
  | moment a, moment b => a.compare? b == some .eq
  | duration a, duration b => a == b
  | clock a, clock b => a == b
  | v, w =>
    match v.measure?, w.measure? with
    | some a, some b => a.compare? b == some .eq
    | _, _ => false

/-- True of lists of equal items. -/
def sameItems : List Datum → List Datum → Bool
  | [], [] => true
  | x :: xs, y :: ys => same x y && sameItems xs ys
  | _, _ => false

/-- True when every member has an equal one of its name. -/
def sameMembers : List (String × Datum) → Record → Bool
  | [], _ => true
  | (name, v) :: rest, ys =>
    (match Record.get? ys name with
      | some w => same v w
      | none => false)
      && sameMembers rest ys

end

/-! ## Order -/

/-- The first items in which two lists differ, or how their lengths compare. -/
def firstDifference : List Datum → List Datum → Ordering ⊕ (Datum × Datum)
  | [], [] => .inl .eq
  | [], _ :: _ => .inl .lt
  | _ :: _, [] => .inl .gt
  | x :: xs, y :: ys => if same x y then firstDifference xs ys else .inr (x, y)

/-- True when one value that is no list comes after another.  A decimal cannot be compared with
what is not a number; a double can, and comes neither before nor after. -/
def isAfterPlain (v w : Datum) : Except Fault Bool :=
  match v, w with
  | text s, text t => .ok (decide (t < s))
  | date a, date b => .ok (decide (b.ordinal < a.ordinal))
  | duration a, duration b => .ok (decide (b.microseconds < a.microseconds))
  | clock a, clock b => .ok (decide (b.microseconds < a.microseconds))
  | moment a, moment b =>
    match a.compare? b with
    | some order => .ok (order == .gt)
    | none => .error .wrongKind
  | v, w =>
    match v.measure?, w.measure? with
    | some a, some b =>
      match a.compare? b with
      | some order => .ok (order == .gt)
      | none =>
        if v.isDecimal || w.isDecimal then .error (.undefinedResult .operands) else .ok false
    | _, _ => .error .wrongKind

/-- True when one value comes after another; `fuel` bounds how deep lists are looked into. -/
def isAfterWithin : (fuel : Nat) → Datum → Datum → Except Fault Bool
  | fuel + 1, list xs, list ys =>
    match firstDifference xs ys with
    | .inl order => .ok (order == .gt)
    | .inr (x, y) => isAfterWithin fuel x y
  | _, v, w => isAfterPlain v w

mutual

/-- How deep lists nest in a value. -/
def depth : Datum → Nat
  | list xs => depthOfItems xs + 1
  | _ => 0

/-- How deep lists nest in any of some items. -/
def depthOfItems : List Datum → Nat
  | [] => 0
  | x :: xs => max (depth x) (depthOfItems xs)

end

/-- True when one value comes after another. -/
def isAfter (v w : Datum) : Except Fault Bool := isAfterWithin v.depth v w

end Datum

end ChartBoard
