import ChartBoard.Datum.Basic
import ChartBoard.Schema
import ChartBoard.Sql.Piece
import ChartBoard.Text.Search

/-!
# The database engine

The engine as the rest of the program meets it: it lists its tables, describes them and answers
every other statement in a way that is not decided here.  A `Database` holds those answers and
keeps a record of what was asked.

* `Database.answer` is the answer to a statement and the engine after it.
-/

namespace ChartBoard.Engine

/-- What comes of a statement. -/
inductive Outcome where
  | table (columns : List String) (rows : List (List Datum))
  /-- The statement was carried out and has no rows to give. -/
  | done
  /-- The engine rejects the statement, in its own words. -/
  | rejected (message : String)
  /-- Something else than the engine failed. -/
  | broken (message : String)

/-- What is done on a connection. -/
inductive Event where
  | connect
  | execute
  | commit
  | rollback
  | close
deriving DecidableEq, Repr

/-- The word for an event. -/
def Event.name : Event → String
  | connect => "connect"
  | execute => "execute"
  | commit => "commit"
  | rollback => "rollback"
  | close => "close"

/-- Rows and the statement that inserts them all. -/
structure Insertion where
  statement : String
  rows : List Record

/-- An engine: its tables, what it is going to answer, and what was asked so far. -/
structure Database where
  catalog : List Schema.Table := []
  outcomes : List Outcome := []
  /-- The words with which every commit fails, if commits fail. -/
  commitError : Option String := none
  statements : List String := []
  events : List Event := []
  inserts : List Insertion := []

namespace Database

/-- The engine with an event in its record. -/
def note (db : Database) (e : Event) : Database := { db with events := db.events ++ [e] }

/-- The start of the statement that lists tables. -/
def listingStart : String := "SELECT table_name FROM information_schema.tables "

/-- The list of the tables, by name. -/
def listing (db : Database) : Outcome :=
  .table ["table_name"] (((db.catalog.map (·.name)).mergeSort (· ≤ ·)).map fun name => [.text name])

/-- The statement that describes a table. -/
def describing (table : String) : String := "DESCRIBE " ++ Sql.quotedName table

/-- The description of a table. -/
def description (t : Schema.Table) : Outcome :=
  .table ["column_name", "column_type"] (t.columns.map fun c => [.text c.name, .text c.type])

/-- The answer to a statement on the engine's own tables. -/
def catalogAnswer? (db : Database) (sql : String) : Option Outcome :=
  if (Text.startsWith? listingStart.toList sql.toList).isSome then some db.listing
  else (db.catalog.find? fun t => describing t.name == sql).map description

/-- The answer to a statement and the engine after it. -/
def answer (db : Database) (sql : String) : Outcome × Database :=
  let db := { db with statements := db.statements ++ [sql] }
  match db.catalogAnswer? sql with
  | some outcome => (outcome, db)
  | none =>
    match db.outcomes with
    | outcome :: rest => (outcome, { db with outcomes := rest })
    | [] => (.table [] [], db)

end Database

end ChartBoard.Engine
