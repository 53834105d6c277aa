import ChartBoard.Http.Handler

/-!
# Requests about tables

* `listTables` lists the catalog, `makeDateTable` adds the table of calendar days.
* `askQuestion` passes a question about the tables on to the assistant and gives the answer.
-/

namespace ChartBoard.Http

/-- Every table with its columns. -/
def listTables (settings : Settings) : Handler Datum := do
  let tables ← reported (Board.schemas settings)
  return .list (tables.map Schema.Table.toDatum)

/-- Makes the table of calendar days. -/
def makeDateTable (body : Body) : Handler Datum := do
  let f ← bodyAs YearsForm.read body
  let name ← reported (Board.session (Engine.createDateTable (.int f.first) (.int f.last)))
  return .object [("table", .text name)]

/-- The description of an answer for the client. -/
def replyRecord (r : Assistant.Reply) : Record :=
  [("question", .text r.question), ("mode", .text r.mode.name), ("display_text", .text r.text),
   ("sql", .ofText? r.sql), ("rows", .list (r.rows.map .object)),
   ("chart", (r.chart.map Datum.object).getD .null), ("summary", .text r.summary),
   ("errors", .texts r.errors), ("retries", .int r.retries), ("success", .bool r.errors.isEmpty)]

/-- The answer to a question about the tables of the catalog. -/
def askQuestion (settings : Settings) (body : Body) : Handler Datum := do
  let f ← bodyAs QuestionForm.read body
  let reply ← reported (Board.dialogue (Assistant.ask settings f.question f.mode f.provider none))
  return .object (replyRecord reply)

end ChartBoard.Http
