import ChartBoard.Datum.Display
import ChartBoard.Text.Blank
import ChartBoard.Text.Lines

/-!
# New names for series

* `aliasesOfText` reads them from lines `name = alias` or `name : alias`, `aliasesOfPairs` from
  pairs.
* `renamed` gives the series of a chart and the entries of its legend their new names.
-/

namespace ChartBoard.Chart

open Text

/-- New names by old name, each old name once. -/
abbrev Aliases := List (String × String)

/-! ## Reading -/

/-- True of the characters between a name and its alias. -/
def isAliasMark (c : Char) : Bool := c == '=' || c == ':'

/-- The characters without the blanks around them; of blanks alone, the last one stays. -/
def trimmedPart? (cs : List Char) : Option String :=
  match trimChars cs with
  | [] => cs.getLast?.map fun c => String.ofList [c]
  | kept => some (String.ofList kept)

/-- The name and the alias on a line: what is before its first mark and what is after it. -/
def aliasOfLine? (line : String) : Option (String × String) :=
  match line.toList.dropWhile (!isAliasMark ·) with
  | [] => none
  | _ :: after =>
    match trimmedPart? (line.toList.takeWhile (!isAliasMark ·)), trimmedPart? after with
    | some name, some new => some (name, new)
    | _, _ => none

/-- The new names on the lines of a text; lines without a name or an alias are skipped. -/
def aliasesOfText (s : String) : Aliases := Keyed.ofPairs ((lines s).filterMap aliasOfLine?)

/-- The new names that pairs give once they are trimmed; those left empty are skipped. -/
def aliasesOfPairs (pairs : List (String × String)) : Aliases :=
  Keyed.ofPairs ((pairs.map fun (name, new) => (trim name, trim new)).filter fun (name, new) =>
    !name.isEmpty && !new.isEmpty)

/-! ## Renaming -/

/-- New names as a record of values by old name. -/
def newNames (aliases : Aliases) : Record := aliases.map fun (name, new) => (name, .text new)

/-- The new name of a label. -/
def newName? (names : Record) (v : Datum) : Option Datum := Record.get? names (trim v.label)

/-- A series under its new name, if that is not empty. -/
def renamedSeries (names : Record) : Datum → Datum
  | .object members =>
    match newName? names (Record.get members "name") with
    | some new => if new.truthy then .object (Record.set members "name" new) else .object members
    | none => .object members
  | v => v

/-- An entry of a legend under its new name. -/
def renamedEntry (names : Record) (v : Datum) : Datum := (newName? names v).getD v

/-- A legend with its entries under their new names. -/
def renamedLegend (names : Record) (legend : Record) : Record :=
  match Record.get legend "data" with
  | .list entries => Record.set legend "data" (.list (entries.map (renamedEntry names)))
  | _ => legend

/-- The chart with its series and the entries of its legend under their new names. -/
def renamed (names : Record) (chart : Record) : Record :=
  let named := match Record.get chart "series" with
    | .list series => Record.set chart "series" (.list (series.map (renamedSeries names)))
    | _ => chart
  match Record.get named "legend" with
  | .object legend => Record.set named "legend" (.object (renamedLegend names legend))
  | _ => named

end ChartBoard.Chart
