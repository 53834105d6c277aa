import ChartBoard.Json.Writing
import ChartBoard.Schema

/-!
# Prompts

What a language model is told and asked.

* `systemPrompt` shows the tables and the rules, `retryPrompt` asks for a corrected statement and
  `summaryPrompt` for a summary of rows.
-/

namespace ChartBoard.Assistant

/-- What kind of answer is wanted. -/
inductive Mode where
  | auto
  | chart
  | summary
deriving DecidableEq, Repr

/-- The word for a mode. -/
def Mode.name : Mode → String
  | auto => "auto"
  | chart => "chart"
  | summary => "summary"

/-- The mode that a word names. -/
def Mode.ofName? (s : String) : Option Mode := [auto, chart, summary].find? fun m => m.name == s

/-- What the model is told of a mode. -/
def Mode.instructions : Mode → String
  | chart => "Requested mode: CHART.\nPrefer visual, brief output.\n" ++
      "If you need data, return SQL inside [SQL]...[/SQL].\n" ++
      "Return the chart configuration inside [CHART]...[/CHART] as valid JSON.\n" ++
      "Avoid long explanations."
  | summary => "Requested mode: SUMMARY IN WORDS.\n" ++
      "Do not return [CHART] or SQL fences in the visible answer.\n" ++
      "If you use SQL internally, keep it only in [SQL]...[/SQL].\n" ++
      "Summarize in clear, actionable language."
  | auto => "Requested mode: AUTO.\nAnswer with text, SQL and/or a chart as appropriate."

/-- The rules of every answer. -/
def rules : String :=
  "STRICT RULES:\n" ++
  "1. Answer briefly and directly (at most 2-3 sentences of explanation).\n" ++
  "2. When SQL is needed, put the query INSIDE [SQL]...[/SQL]. Do not use triple backticks.\n" ++
  "3. LOOK at the sample rows to learn each column's real format. If a numeric column holds values such as '$32,370.00' or '1,234', use REPLACE to clean them before CAST. Example: CAST(REPLACE(REPLACE(Sales, '$', ''), ',', '') AS DOUBLE)\n" ++
  "4. When a chart is requested, return JSON inside [CHART]...[/CHART].\n" ++
  "   - Use \x22title\x22, \x22xAxis\x22 and \x22series\x22 where applicable.\n" ++
  "   - Bars and lines: series with type \x22bar\x22 or \x22line\x22.\n" ++
  "   - Pie: series type \x22pie\x22 with data as \x7bname, value\x7d.\n" ++
  "   - Scatter: type \x22scatter\x22.\n" ++
  "5. Do not produce markdown tables or invented examples; the system runs your SQL and shows the real results.\n" ++
  "6. If a query fails you will receive the error and must produce a corrected query.\n" ++
  "7. Do not add LIMIT clauses; the user wants to see all available data."

/-- The first rows of tables, by name. -/
abbrev Samples := Record

/-- The first rows of a table, as the model is shown them. -/
def sampleText (sample : String × Datum) : String :=
  let count := (sample.2.items.toOption.getD []).length
  "Table \x22" ++ sample.1 ++ "\x22 - first " ++ toString count ++ " rows:\n"
    ++ Json.indented sample.2

/-- The first rows of all tables, as the model is shown them. -/
def samplesText (samples : Samples) : String :=
  if samples.isEmpty then "(no sample data)" else "\n\n".intercalate (samples.map sampleText)

/-- What the model is told before a question. -/
def systemPrompt (schemas : List Schema.Table) (samples : Samples) (mode : Mode) : String :=
  "You are an expert data assistant for an analytics dashboard. You work with DuckDB.\n\n"
    ++ "USER TABLE SCHEMAS:\n" ++ Json.indented (.list (schemas.map Schema.Table.toDatum))
    ++ "\n\nSAMPLE DATA (first rows of each table):\n" ++ samplesText samples
    ++ "\n\nADDITIONAL CONTEXT:\n" ++ mode.instructions ++ "\n\n" ++ rules

/-- The request to correct a statement. -/
def retryPrompt (sql error : String) : String :=
  "The SQL query you generated failed with this error:\nERROR: " ++ error
    ++ "\n\nThe failing SQL was:\n" ++ sql
    ++ "\n\nPlease produce a corrected SQL query that fixes that error. Remember that numeric "
    ++ "columns may hold formats such as '$32,370.00' which must be cleaned before CAST. "
    ++ "Reply ONLY with the corrected SQL inside [SQL]...[/SQL]."

/-- What the model is told before a request to correct a statement. -/
def retrySystem : String := "Return only the corrected SQL inside [SQL]...[/SQL]."

/-- The number of rows that a summary takes into account. -/
def summaryRows : Nat := 40

/-- The request to summarize rows. -/
def summaryPrompt (rows : List Record) (question : String) : String :=
  "Summarize the following results in clear business language.\n\nUser goal: " ++ question
    ++ "\n\nGive at most 5 short points and a conclusion.\n\n"
    ++ "Do not include SQL, JSON or technical markdown.\n\nResult JSON:\n"
    ++ Json.compact (.list ((rows.take summaryRows).map .object))

end ChartBoard.Assistant
