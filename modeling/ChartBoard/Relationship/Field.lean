import ChartBoard.Text.Blank
import ChartBoard.Text.Search

/-!
# Field references

A field is written `table.column`, or `column` alone for a column of the base table.

* `Field.split` takes a reference apart, `Field.parse` reads it.
-/

namespace ChartBoard.Relationship

/-- A column of a table. -/
structure Field where
  table : String
  column : String
deriving DecidableEq, Repr

/-- The table that a reference names, if it names one, and the column: the part before the first
point is the table. -/
def Field.split (reference : String) : Option String × String :=
  let cs := Text.trimChars reference.toList
  match Text.split? ['.'] cs with
  | some (table, column) => (some (String.ofList table), String.ofList column)
  | none => (none, String.ofList cs)

/-- The field that a reference means. -/
def Field.parse (base : String) (reference : String) : Field :=
  let (table, column) := Field.split reference
  ⟨table.getD base, column⟩

end ChartBoard.Relationship
