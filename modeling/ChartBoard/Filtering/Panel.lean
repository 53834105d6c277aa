import ChartBoard.Filtering.Store

/-!
# The filter panel

A selection in the making.  Clicks toggle values in a draft; the store hears of it only when the
draft is applied.

* `Panel.select` opens a draft and toggles a value.
* `Panel.apply` commits the draft, `Panel.hasPendingChanges` is true while it differs from what is
  applied.
-/

namespace ChartBoard.Filtering

/-- A selection that is not applied yet. -/
structure Draft where
  widget : String
  table : String
  column : String
  selected : List Datum
  options : List Datum
  /-- The draft was worked on since it was opened or applied. -/
  touched : Bool

/-- What the filter of a draft is kept by. -/
def Draft.key (d : Draft) : String := keyOf d.table d.column

/-- The filter that a draft would set. -/
def Draft.filter (d : Draft) : ActiveFilter := ⟨d.table, d.column, d.selected⟩

/-- The description of a draft. -/
def Draft.toRecord (d : Draft) : Record :=
  [("widgetId", .text d.widget), ("tableName", .text d.table), ("column", .text d.column),
   ("selected", .list d.selected), ("options", .list d.options), ("dirty", .bool d.touched)]

/-- The store of a dashboard with the draft in the making, if there is one. -/
structure Panel where
  store : Store := {}
  draft : Option Draft := none

/-- A selection with a value added, or without the values of its text if there are any. -/
def toggled (selection : List Datum) (value : Datum) : List Datum :=
  if selection.any fun v => v.label == value.label then
    selection.filter fun v => v.label != value.label
  else selection ++ [value]

namespace Panel

/-- The draft for a column, if that is the one in the making. -/
def draftFor? (p : Panel) (table column : String) : Option Draft :=
  p.draft.filter fun d => d.table == table && d.column == column

/-- The draft for a column with a value toggled.  A draft for the same column goes on from its own
selection, any other starts from the applied one; null toggles nothing. -/
def drafted (p : Panel) (widget table column : String) (value : Datum) (options : List Datum) :
    Draft :=
  let applied := p.store.applied table column
  let current := p.draftFor? table column
  let base := (current.map (·.selected)).getD applied
  let selected := if value.isNull then base else toggled base value
  { widget := widget
    table := table
    column := column
    selected := selected
    options := mergeDistinct [options, selected, applied, if value.isNull then [] else [value]]
    touched := !value.isNull || current.isSome }

/-- The panel with the draft for a column opened and a value toggled in it. -/
def select (p : Panel) (widget table column : String) (value : Datum) (options : List Datum) :
    Panel := { p with draft := some (p.drafted widget table column value options) }

/-- The panel with further options in its draft. -/
def addOptions (p : Panel) (options : List Datum) : Panel :=
  { p with draft := p.draft.map fun d =>
      { d with options := mergeDistinct [options, d.options, d.selected] } }

/-- True while the draft differs from the applied selection. -/
def hasPendingChanges (p : Panel) : Bool :=
  match p.draft with
  | some d => !sameSelection d.selected (p.store.applied d.table d.column)
  | none => false

/-- The store once a draft is applied: an empty selection clears the filter. -/
def committed (s : Store) (d : Draft) : Store :=
  if d.selected.isEmpty then s.erase d.table d.column else s.put d.filter

/-- The panel with its draft applied. -/
def apply (p : Panel) : Panel :=
  match p.draft with
  | some d => ⟨committed p.store d, some { d with touched := false }⟩
  | none => p

/-- True when applying the draft changes a filter. -/
def changes (p : Panel) : Bool := p.apply.store.version != p.store.version

/-- The panel without a draft. -/
def discard (p : Panel) : Panel := { p with draft := none }

end Panel

end ChartBoard.Filtering
