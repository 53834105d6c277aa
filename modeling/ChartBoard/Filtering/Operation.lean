import ChartBoard.Filtering.Panel

/-!
# Operations on filters

What can happen to the filters of a dashboard, to the store directly or by way of the panel.

* `Operation.perform` is the panel after an operation, `Panel.run` after several.
-/

namespace ChartBoard.Filtering

/-- An operation on the store or the panel. -/
inductive Operation where
  | set (f : ActiveFilter)
  | clear (table column : String)
  | clearAll
  | replaceAll (filters : List ActiveFilter)
  | select (widget table column : String) (value : Datum) (options : List Datum)
  | addOptions (options : List Datum)
  | apply
  | discard
  /-- A look at whether changes are pending. -/
  | look

/-- The panel after an operation. -/
def Operation.perform (p : Panel) : Operation → Panel
  | set f => { p with store := p.store.put f }
  | clear table column => { p with store := p.store.erase table column }
  | clearAll => { p with store := p.store.clear }
  | replaceAll filters => { p with store := p.store.replaceAll filters }
  | select widget table column value options => p.select widget table column value options
  | addOptions options => p.addOptions options
  | apply => p.apply
  | discard => p.discard
  | look => p

/-- True of the operations that leave the store alone, whatever it holds. -/
def Operation.isDrafting : Operation → Bool
  | select .. | addOptions _ | discard | look => true
  | _ => false

/-- The panel after several operations. -/
def Panel.run (p : Panel) (operations : List Operation) : Panel :=
  operations.foldl Operation.perform p

end ChartBoard.Filtering
