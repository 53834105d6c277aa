import ChartBoard.Http.Handler

/-!
# Requests about relationships

Edges are listed, added, removed, confirmed and suggested; whatever changes the graph is written
to its file.

* `edit` makes a change, `listEdges` and `suggestEdges` show edges.
-/

namespace ChartBoard.Http

open Relationship

/-- True of an edge that can be shown: its ends have names and its words are texts. -/
def isShowable (e : Edge) : Bool :=
  [e.left.table, e.left.column, e.right.table, e.right.column].all (!·.isEmpty)
    && e.status.asText?.isSome && e.cardinality.asText?.isSome

/-- An edge for the client. -/
def shownEdge (e : Edge) : Handler Datum :=
  if isShowable e then pure e.toDatum else throw .broken

/-- Edges for the client. -/
def shownEdges (edges : List Edge) : Handler Datum := do
  return .object [("relationships", .list (← edges.mapM shownEdge))]

/-- The edges of the graph. -/
def listEdges : Handler Datum := do shownEdges (← get).workspace.graph.edges

/-- Changes the graph and its file. -/
def edit (e : Edit) : Handler Unit := modify fun b => { b with workspace := b.workspace.perform e }

/-- Adds an edge. -/
def addEdge (body : Body) : Handler Datum := do
  let f ← bodyAs EdgeForm.read body
  edit (.add f.edge)
  listEdges

/-- Removes an edge that must be there. -/
def removeEdge (body : Body) : Handler Datum := do
  let f ← bodyAs EdgeForm.read body
  if !(← get).workspace.graph.removes f.edge then
    throw (.withDetail 404 (.text "Relationship not found"))
  edit (.remove f.edge)
  listEdges

/-- Confirms an edge. -/
def confirmEdge (body : Body) : Handler Datum := do
  let f ← bodyAs EdgeForm.read body
  edit (.confirm f.edge (.text f.cardinality))
  shownEdge (f.edge.confirmed (.text f.cardinality))

/-- Suggests edges between the tables of the catalog. -/
def suggestEdges (settings : Settings) : Handler Datum := do
  let tables ← reported (Board.schemas settings)
  let (found, w) := (← get).workspace.refresh (Matcher.ofSettings settings) tables
  modify fun b => { b with workspace := w }
  shownEdges found

end ChartBoard.Http
