/-!
# Keyed lists

Lists of pairs in the order in which their keys first came.

* `Keyed.get?` finds the value of a key.
* `Keyed.set` changes a value in its place or adds it at the end, `Keyed.ofPairs` sets pairs in
  turn.
-/

namespace ChartBoard.Keyed

variable {α : Type}

/-- The value of a key. -/
def get? : List (String × α) → String → Option α
  | [], _ => none
  | (k, v) :: rest, key => if k = key then some v else get? rest key

/-- The pairs with one value changed in its place, or added at the end. -/
def set : List (String × α) → String → α → List (String × α)
  | [], key, value => [(key, value)]
  | (k, v) :: rest, key, value =>
    if k = key then (k, value) :: rest else (k, v) :: set rest key value

/-- The pairs with others set in turn. -/
def setAll (pairs others : List (String × α)) : List (String × α) :=
  others.foldl (fun acc (key, value) => set acc key value) pairs

/-- The pairs set in turn: of those with one key the last value, in the place of the first. -/
def ofPairs (pairs : List (String × α)) : List (String × α) := setAll [] pairs

end ChartBoard.Keyed
