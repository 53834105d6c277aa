/-!
# Output names

Every output of a statement needs a name of its own.  A name that is taken gets a number.

* `freshName` finds a name that is not taken, `freshNames` names a whole list.
-/

namespace ChartBoard.Widget

/-- The names to try for an output, in order: the name itself, then the name with 2, 3, … -/
def numberedName (name : String) (n : Nat) : String :=
  if n = 0 then name else s!"{name} ({n + 1})"

/-- The first of the names to try that is not taken.  One more try than there are taken names is
always enough. -/
def freshName (taken : List String) (name : String) : String :=
  (((List.range (taken.length + 1)).map (numberedName name)).find? (· ∉ taken)).getD name

/-- The names of outputs in turn, after those that are taken. -/
def freshNamesAfter (taken : List String) : List String → List String
  | [] => []
  | name :: rest =>
    let fresh := freshName taken name
    fresh :: freshNamesAfter (taken ++ [fresh]) rest

/-- The names of outputs in turn. -/
def freshNames (names : List String) : List String := freshNamesAfter [] names

end ChartBoard.Widget
