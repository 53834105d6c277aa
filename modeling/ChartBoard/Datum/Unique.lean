import ChartBoard.Datum.Display

/-!
# Distinct values

Values count as the same when their kind and their text agree.

* `distinct` keeps the first of each in order.
* `sameSelection` compares two lists regardless of order.
-/

namespace ChartBoard

/-- The values whose key was not seen before, given the keys seen so far. -/
def distinctFrom (seen : List String) : List Datum → List Datum
  | [] => []
  | v :: rest =>
    if v.key ∈ seen then distinctFrom seen rest else v :: distinctFrom (v.key :: seen) rest

/-- The values in order, each only where it comes first. -/
def distinct (values : List Datum) : List Datum := distinctFrom [] values

/-- The texts in order, each only where it comes first. -/
def distinctTexts (texts : List String) : List String :=
  (texts.foldl (fun acc s => if s ∈ acc then acc else s :: acc) []).reverse

/-- The distinct values of several lists, one after the other. -/
def mergeDistinct (lists : List (List Datum)) : List Datum := distinct lists.flatten

/-- True when two lists hold the same values, each equally often. -/
def sameSelection (left right : List Datum) : Bool :=
  (left.map Datum.key).mergeSort (· ≤ ·) == (right.map Datum.key).mergeSort (· ≤ ·)

end ChartBoard
