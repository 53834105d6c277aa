import ChartBoard.Assistant.Display
import ChartBoard.Assistant.Model
import ChartBoard.Assistant.Prompt
import ChartBoard.Chart.Repair
import ChartBoard.Chart.Theme
import ChartBoard.Engine.Catalog

/-!
# Questions

From a question to rows, a chart or a summary.

* `ask` shows the model the tables, runs the statement of its answer and has it corrected when the
  engine rejects it.
* `run` is that last part: the statement of each answer in turn until one succeeds or the retries
  are used up.
-/

namespace ChartBoard.Assistant

open Engine (Session execute)

/-- A prompt as it is sent to a model. -/
structure Call where
  prompt : String
  provider : Option String
  system : Option String
deriving DecidableEq, Repr

/-- The engine and the model.  A model with replies of its own gives them in turn, and nothing
afterwards; any other is asked for. -/
structure Desk where
  database : Engine.Database := {}
  replies : Option (List String) := none
  calls : List Call := []

/-- Work with the engine and the model. -/
abbrev Dialogue (α : Type) := Task Desk α

/-- Work with the engine alone. -/
def engine {α : Type} (work : Session α) : Dialogue α :=
  Task.on (·.database) (fun db d => { d with database := db }) work

/-- The answer of the model to a prompt. -/
def consult (settings : Settings) (provider system : Option String) (prompt : String) :
    Dialogue String := do
  let d ← get
  match d.replies with
  | none => return (← Task.ofExcept (complete settings none provider system prompt)).text
  | some replies =>
    let call : Call := ⟨prompt, provider, system⟩
    set { d with replies := some (replies.drop 1), calls := d.calls ++ [call] }
    return replies.headD ""

/-! ## Samples -/

/-- The first rows of the tables that the engine can show. -/
def sampled : Samples → List Schema.Table → Session Samples
  | samples, [] => return samples
  | samples, t :: rest => do
    match ← Task.attempt (Engine.sampleRows t.name 3) with
    | .ok rows => sampled (Record.set samples t.name (.list (rows.map .object))) rest
    | .error (.query _ _) => sampled samples rest
    | .error fault => throw fault

/-! ## Statements -/

/-- What came of running statements: the last one, its rows if it succeeded, how many failed and
what is to be said of that. -/
structure Run where
  sql : String
  rows : List Record
  succeeded : Bool
  failures : Nat
  error : Option String

/-- What is said when no retry is left. -/
def exhaustedText (retries : Int) (message : String) : String :=
  "Could not execute the query after " ++ toString retries ++ " retries: " ++ message

/-- What is said when the model has no correction to offer. -/
def uncorrectedText : String :=
  "Could not correct the query automatically; try rephrasing the request."

/-- Runs a statement; while the engine rejects it and retries are left, has it corrected. -/
def run (settings : Settings) (provider : Option String) :
    (left failures : Nat) → String → Dialogue Run
  | left, failures, sql => do
    match ← Task.attempt (engine (execute sql)) with
    | .ok rows => return ⟨sql, rows, true, failures, none⟩
    | .error (.query _ message) =>
      match left with
      | 0 =>
        return ⟨sql, [], false, failures + 1,
          some (exhaustedText settings.assistantRetries message)⟩
      | left + 1 =>
        let answer ← consult settings provider (some retrySystem) (retryPrompt sql message)
        let fixed := (statement? answer).getD ""
        if fixed.isEmpty then return ⟨sql, [], false, failures + 1, some uncorrectedText⟩
        else run settings provider left (failures + 1) fixed
    | .error fault => throw fault

/-- Runs the statement of an answer, if there is one that is not empty. -/
def runFirst (settings : Settings) (provider : Option String) (sql : Option String) :
    Dialogue (Option Run) :=
  match sql with
  | some sql =>
    if sql.isEmpty then return none
    else some <$> run settings provider settings.assistantRetries.toNat 0 sql
  | none => return none

/-! ## Answers -/

/-- The answer to a question. -/
structure Reply where
  question : String
  mode : Mode
  text : String
  sql : Option String
  rows : List Record
  chart : Option Record
  summary : String
  errors : List String
  retries : Nat

/-- What is said when there is no chart to show. -/
def noChartText : String :=
  "Could not build a chart for this request; name a metric and a dimension."

/-- The chart of an answer: the model's own, or in chart mode that of the rows; themed, once more
repaired and with the rows to fall back on. -/
def chartFor (settings : Settings) (mode : Mode) (found : Option Record) (rows : List Record) :
    Except Fault (Option Record) := do
  let data : Datum := .list (rows.map .object)
  let made ← match found with
    | some chart => .ok (some chart)
    | none =>
      if mode = .chart && !rows.isEmpty then
        Chart.chartOfRows settings Chart.generatedTitle data
      else .ok none
  match made with
  | none => return none
  | some chart =>
    let fit ← Chart.repaired settings (.object chart) (if rows.isEmpty then .null else data)
    return fit.map (Chart.themed (some "default") [])

/-- The summary of rows in the model's words. -/
def summarized (settings : Settings) (provider : Option String) (question : String)
    (rows : List Record) : Dialogue String := do
  let answer ← consult settings provider none (summaryPrompt rows question)
  return compact 5 560 (clean answer)

/-- The answer to a question in some mode, about the given tables or else those of the catalog. -/
def ask (settings : Settings) (question modeName : String) (provider : Option String)
    (tables : Option (List Schema.Table)) : Dialogue Reply := do
  let some mode := Mode.ofName? modeName | throw (.misuse (.unsupportedMode modeName))
  let schemas ← match tables with
    | some schemas => pure schemas
    | none => engine (Engine.schemas settings)
  let samples ← engine (sampled [] schemas)
  let answer ← consult settings provider (some (systemPrompt schemas samples mode)) question
  let sql := statement? answer
  let found ← if mode = .summary then pure none
    else Task.ofExcept do Chart.repaired settings (← chart settings.limits answer) .null
  let ran ← runFirst settings provider sql
  let rows := (ran.map (·.rows)).getD []
  let summary ← if mode = .summary && !rows.isEmpty then summarized settings provider question rows
    else pure ""
  let shown ← if mode = .summary then pure none
    else Task.ofExcept (chartFor settings mode found rows)
  let noChart := if mode = .chart && shown.isNone then [noChartText] else []
  return {
    question := question
    mode := mode
    text := compact 5 520 (clean answer)
    sql := (ran.map (·.sql)).or sql
    rows := rows
    chart := shown
    summary := summary
    errors := (ran.bind (·.error)).toList ++ noChart
    retries := (ran.map (·.failures)).getD 0 }

/-- The description of an answer. -/
def Reply.toRecord (r : Reply) : Record :=
  [("question", .text r.question), ("mode", .text r.mode.name), ("display_text", .text r.text),
   ("sql", .ofText? r.sql), ("rows", .list (r.rows.map .object)),
   ("chart_config", (r.chart.map Datum.object).getD .null), ("summary", .text r.summary),
   ("errors", .texts r.errors), ("retries", .int r.retries), ("success", .bool r.errors.isEmpty)]

end ChartBoard.Assistant
