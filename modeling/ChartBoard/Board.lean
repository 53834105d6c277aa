import ChartBoard.Assistant.Ask
import ChartBoard.Filtering.Panel
import ChartBoard.Kpi.Recompute
import ChartBoard.Relationship.Workspace

/-!
# The board

All that lasts from one request to the next: the engine, the relationships and their file, the
filters, the versions of the key figures and what the language model is going to say.

* `Board.session`, `Board.recomputation` and `Board.dialogue` run work that concerns a part of it.
-/

namespace ChartBoard

/-- The state of a running board. -/
structure Board where
  database : Engine.Database := {}
  workspace : Relationship.Workspace := {}
  panel : Filtering.Panel := {}
  versions : Kpi.Versions := {}
  /-- The replies of a language model of its own, if the board has one. -/
  replies : Option (List String) := none

namespace Board

variable {α : Type}

/-- The board with another engine. -/
def withDatabase (b : Board) (db : Engine.Database) : Board := { b with database := db }

/-- Work with the engine. -/
def session (work : Engine.Session α) : Task Board α :=
  Task.on (·.database) (fun db b => b.withDatabase db) work

/-- Work on key figures. -/
def recomputation (work : Task Kpi.Desk α) : Task Board α :=
  Task.on (fun b => ⟨b.versions, b.database⟩)
    (fun d b => { b with versions := d.versions, database := d.database }) work

/-- Work with the engine and the language model. -/
def dialogue (work : Assistant.Dialogue α) : Task Board α :=
  Task.on (fun b => { database := b.database, replies := b.replies })
    (fun d b => { b with database := d.database, replies := d.replies }) work

/-- The tables of the catalog. -/
def schemas (settings : Settings) : Task Board (List Schema.Table) :=
  session (Engine.schemas settings)

/-- The filters that are active. -/
def filters (b : Board) : List Filtering.ActiveFilter := b.panel.store.filters

/-- The edges that widgets may join along. -/
def edges (b : Board) : List Relationship.Edge := b.workspace.graph.confirmed

end Board

end ChartBoard
