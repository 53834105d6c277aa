import ChartBoard.Chart.Amount

/-!
# Key figures

A single value with the one before it and the change between them.

* `readings` takes both from the row of a query, `keyFigure` is their specification.
-/

namespace ChartBoard.Chart

/-- The change between optional values. -/
def changeOf (current : Float) (previous : Option Float) : Datum :=
  match previous.bind (changePercent current) with
  | some x => .float x
  | none => .null

/-- The value in a row, the one before it and the change.  A value that is no number counts as
zero; a previous value that is null stays unknown. -/
def readings (row : Record) : Except Fault Record := do
  let current ← (Record.get row "current_value").number
  let before := Record.get row "previous_value"
  let previous ← if before.isNull then .ok none else before.number.map some
  return [("value", .float current), ("previous", (previous.map Datum.float).getD .null),
    ("deltaPct", changeOf current previous)]

/-- The specification of a key figure. -/
def keyFigure (row : Record) (label thresholds window : Datum) : Except Fault Record := do
  return [("kpi", .object ([("label", label)] ++ (← readings row)
    ++ [("thresholds", thresholds), ("window", window)]))]

end ChartBoard.Chart
