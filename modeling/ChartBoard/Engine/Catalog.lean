import ChartBoard.Engine.Session
import ChartBoard.Number.Notation
import ChartBoard.Datum.Order
import ChartBoard.Datum.Reading
import ChartBoard.Settings
import ChartBoard.Sql.Query

/-!
# The catalog

* `tableNames`, `describe` and `schemas` tell what tables there are.
* `sampleRows` shows the first rows of a table.
* `createDateTable` makes a table of calendar days, `dropTable` removes a table.
-/

namespace ChartBoard.Engine

open Sql (quotedName quotedText)

/-- The statement that lists the tables of the working schema. -/
def listingStatement (settings : Settings) : String :=
  Database.listingStart ++ "WHERE table_schema = " ++ quotedText settings.workingSchema
    ++ " ORDER BY table_name"

/-- The names of the tables. -/
def tableNames (settings : Settings) : Session (List String) := do
  let rows ← execute (listingStatement settings)
  Task.ofExcept (rows.mapM fun row => return (← Schema.require row "table_name").display)

/-- The column that a row of a description tells of. -/
def columnOfRow (row : Record) : Except Fault Schema.Column := do
  let name ← Schema.require row "column_name"
  return ⟨name.display, ((Record.get row "column_type").orElse (.text "")).display⟩

/-- A table with its columns. -/
def describe (table : String) : Session Schema.Table := do
  let rows ← execute (Database.describing table)
  return ⟨table, ← Task.ofExcept (rows.mapM columnOfRow)⟩

/-- All tables with their columns. -/
def schemas (settings : Settings) : Session (List Schema.Table) := do
  (← tableNames settings).mapM describe

/-- The statement for the first rows of a table. -/
def sampleStatement (table : String) (limit : Int) : String :=
  "SELECT * FROM " ++ quotedName table ++ " LIMIT " ++ toString limit

/-- The first rows of a table. -/
def sampleRows (table : String) (limit : Int) : Session (List Record) :=
  execute (sampleStatement table limit)

/-! ## Calendar table -/

/-- The name of the table of calendar days. -/
def dateTable : String := "DimDate"

/-- A year with at least four characters, its sign included. -/
def yearText (n : Int) : String :=
  if n < 0 then "-" ++ Number.padded 3 n.natAbs else Number.padded 4 n.natAbs

/-- The statement that makes the table of the days from one year to another. -/
def dateTableStatement (first last : Int) : String :=
  "CREATE TABLE IF NOT EXISTS " ++ quotedName dateTable ++ " AS WITH dates AS ("
    ++ "SELECT unnest(generate_series(TIMESTAMP '" ++ yearText first ++ "-01-01', TIMESTAMP '"
    ++ yearText last ++ "-12-31', INTERVAL 1 DAY)) AS d) "
    ++ "SELECT CAST(d AS DATE) AS \x22Date\x22, year(d) AS \x22Year\x22, month(d) AS \x22Month\x22, "
    ++ "monthname(d) AS \x22MonthName\x22, day(d) AS \x22Day\x22, quarter(d) AS \x22Quarter\x22, "
    ++ "week(d) AS \x22WeekNumber\x22, dayofweek(d) AS \x22DayOfWeek\x22 FROM dates"

/-- Makes the table of the days of whole years, unless it is there already. -/
def createDateTable (first last : Datum) : Session String := do
  if ← Task.ofExcept (first.isAfter last) then
    throw (.misuse (.yearsReversed first.display last.display))
  let first ← Task.ofExcept first.writableInteger
  let last ← Task.ofExcept last.writableInteger
  let _ ← execute (dateTableStatement first last)
  return dateTable

/-- Removes a table, if it is there. -/
def dropTable (table : String) : Session Unit := do
  let _ ← execute ("DROP TABLE IF EXISTS " ++ quotedName table)

end ChartBoard.Engine
