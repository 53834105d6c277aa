import ChartBoard.Calendar.Moment
import ChartBoard.Engine.Database
import ChartBoard.Task

/-!
# Sessions with the engine

Statements run on a connection that is committed after success, rolled back after failure and
closed in any case.

* `onConnection` is such a connection around any work.
* `execute` runs one statement and gives its rows in interchange values.
-/

namespace ChartBoard.Engine

/-- Work with the engine. -/
abbrev Session (α : Type) := Task Database α

/-- An event on the connection. -/
def note (e : Event) : Session Unit := modify (·.note e)

/-- The commit of what was done on the connection. -/
def commit : Session Unit := do
  note .commit
  match (← get).commitError with
  | some message => throw (.engine message)
  | none => return ()

/-- Work on a connection of its own. -/
def onConnection {α : Type} (work : Session α) : Session α := do
  note .connect
  match ← Task.attempt (do let a ← work; commit; return a) with
  | .ok a => note .close; return a
  | .error fault => note .rollback; note .close; throw fault

/-- The answer to a statement.  A rejection is a fault. -/
def send (sql : String) : Session Outcome := do
  note .execute
  let outcome ← modifyGet (·.answer sql)
  match outcome with
  | .rejected message => throw (.engine message)
  | .broken message => throw (.outage (.failed message))
  | outcome => return outcome

/-- Inserts rows. -/
def insert (i : Insertion) : Session Unit :=
  modify fun db => { db with inserts := db.inserts ++ [i] }

/-! ## Rows -/

/-- A value of the database as a value that can be interchanged. -/
def interchange : Datum → Except Fault Datum
  | .decimal d =>
    match d.toFloat? with
    | some x => .ok (.float x)
    | none => .error .signallingNumber
  | .date d => .ok (.text d.iso)
  | .moment m => .ok (.text (m.iso "T"))
  | .duration d => .ok (.text d.text)
  | v => .ok v

/-- A row with its values under the names of their columns; of columns with one name the last
stays. -/
def rowOf (columns : List String) (values : List Datum) : Except Fault Record := do
  return Keyed.ofPairs (← (columns.zip values).mapM fun (name, v) => return (name, ← interchange v))

/-- The rows of an answer. -/
def Outcome.records : Outcome → Except Fault (List Record)
  | table columns rows => rows.mapM (rowOf columns)
  | _ => .ok []

/-- The fault of a statement that the engine rejects. -/
def blame (sql : String) : Fault → Fault
  | .engine message => .query sql message
  | fault => fault

/-- The rows that a statement gives. -/
def execute (sql : String) : Session (List Record) :=
  Task.relabel (blame sql) (onConnection do Task.ofExcept (← send sql).records)

end ChartBoard.Engine
