import ChartBoard.Relationship.ModelFile

/-!
# The graph and its file

Clients change the graph edge by edge; after every change the confirmed edges are written to the
model file, so that a restart finds them.

* `Edit` is a change that a client asks for, `Edit.apply` makes it.
* `Workspace.change`, `Workspace.snapshot` and `Workspace.write` are the three steps of an edit;
  `Workspace.perform` takes them one after the other.
* `Workspace.restart` starts again from the file.
* `Workspace.visit` is the workspace after any of these.
-/

namespace ChartBoard.Relationship

/-- A change of the graph. -/
inductive Edit where
  | add (e : Edge)
  | remove (e : Edge)
  | confirm (e : Edge) (cardinality : Datum)

/-- The graph after a change. -/
def Edit.apply (g : Graph) : Edit → Graph
  | add e => g.add e
  | remove e => g.remove e
  | confirm e cardinality => (g.confirm e cardinality).2

/-- True unless the edit removes an edge that is not there. -/
def Edit.isPossible (g : Graph) : Edit → Bool
  | remove e => g.removes e
  | _ => true

/-- The graph in memory and the file it is kept in. -/
structure Workspace where
  graph : Graph := {}
  file : ModelFile := {}

namespace Workspace

/-- The first step of an edit: the graph changes. -/
def change (w : Workspace) (e : Edit) : Workspace := { w with graph := e.apply w.graph }

/-- The second step: the edges to be written are taken from the graph. -/
def snapshot (w : Workspace) : List Edge := w.graph.confirmed

/-- The third step: the file is written. -/
def write (w : Workspace) (edges : List Edge) : Workspace := { w with file := w.file.save edges }

/-- An edit from its first step to its last, if it is possible. -/
def perform (w : Workspace) (e : Edit) : Workspace :=
  if e.isPossible w.graph then
    let w := w.change e
    w.write w.snapshot
  else w

/-- The graph with fresh suggestions, and these; the file keeps confirmed edges only and is not
written. -/
def refresh (w : Workspace) (m : Matcher) (tables : List Schema.Table) : List Edge × Workspace :=
  let (found, g) := w.graph.refresh m tables
  (found, { w with graph := g })

/-- The edges in the file, and what is remembered of it from now on. -/
def load (w : Workspace) : Except Fault (List Edge) × Workspace :=
  let (edges, f) := w.file.load
  (edges, { w with file := f })

/-- The graph of the edges in the file. -/
def restart (w : Workspace) : Except Fault Unit × Workspace :=
  match w.file.bootstrap w.graph with
  | (.ok g, f) => (.ok (), ⟨g, f⟩)
  | (.error fault, f) => (.error fault, { w with file := f })

end Workspace

/-- What can happen to a workspace. -/
inductive Visit where
  | list
  | edit (e : Edit)
  | suggest (m : Matcher) (tables : List Schema.Table)
  | load
  | restart

/-- The workspace after a visit. -/
def Workspace.visit (w : Workspace) : Visit → Workspace
  | .list => w
  | .edit e => w.perform e
  | .suggest m tables => (w.refresh m tables).2
  | .load => w.load.2
  | .restart => w.restart.2

end ChartBoard.Relationship
