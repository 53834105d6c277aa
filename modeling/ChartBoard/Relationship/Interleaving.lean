import ChartBoard.Relationship.Workspace

/-!
# Edits at the same time

Several clients edit the graph of one workspace, each in three steps: its edit changes the graph,
then the edges to be written are taken from the graph, then the file is written.  The steps of
different clients come in any order.

* `Team.step` lets a client take its next step, `Team.run` lets clients take steps in some order.
-/

namespace ChartBoard.Relationship

/-- How far an edit has come. -/
inductive Progress where
  | waiting (e : Edit)
  /-- The graph is changed. -/
  | changed
  /-- The edges to be written are known. -/
  | ready (edges : List Edge)
  | finished

/-- A workspace and the edits on the way. -/
structure Team where
  workspace : Workspace
  edits : List Progress

/-- The next step of an edit.  One that is not possible is finished at once. -/
def Progress.step (w : Workspace) : Progress → Progress × Workspace
  | waiting e => if e.isPossible w.graph then (changed, w.change e) else (finished, w)
  | changed => (ready w.snapshot, w)
  | ready edges => (finished, w.write edges)
  | finished => (finished, w)

namespace Team

/-- The team after a client has taken its next step. -/
def step (t : Team) (client : Nat) : Team :=
  match t.edits[client]? with
  | some p => ⟨(p.step t.workspace).2, t.edits.set client (p.step t.workspace).1⟩
  | none => t

/-- The team after clients have taken steps in some order. -/
def run (t : Team) (order : List Nat) : Team := order.foldl step t

/-- True when all edits are finished. -/
def isFinished (t : Team) : Bool :=
  t.edits.all fun
    | .finished => true
    | _ => false

/-- A team that is going to make some edits. -/
def ofEdits (w : Workspace) (edits : List Edit) : Team := ⟨w, edits.map .waiting⟩

end Team

end ChartBoard.Relationship
