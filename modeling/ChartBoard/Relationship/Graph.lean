import ChartBoard.Relationship.Suggestion

/-!
# The relationship graph

The known edges, confirmed and suggested.  An edge is stored once, in the place where its
relationship came first, and a suggestion never takes the place of a confirmed edge.

* `Graph.add`, `Graph.confirm`, `Graph.remove`, `Graph.replaceAll` and `Graph.refresh` change it.
* `Graph.edges` is its content in order.
-/

namespace ChartBoard.Relationship

/-- The known edges. -/
structure Graph where
  edges : List Edge := []

/-- The edges with one more, in the place of the same relationship or at the end. -/
def insertEdge (edges : List Edge) (e : Edge) : List Edge :=
  match edges with
  | [] => [e]
  | x :: rest =>
    if x.same e then (if x.isConfirmed && !e.isConfirmed then x else e) :: rest
    else x :: insertEdge rest e

namespace Graph

/-- The graph without edges. -/
def empty : Graph := ⟨[]⟩

/-- The graph with one more edge. -/
def add (g : Graph) (e : Edge) : Graph := ⟨insertEdge g.edges e⟩

/-- The graph with just these edges. -/
def ofEdges (edges : List Edge) : Graph := edges.foldl add empty

/-- The edges that may be used for joins. -/
def confirmed (g : Graph) : List Edge := confirmedOf g.edges

/-- The edges that wait for acceptance. -/
def suggested (g : Graph) : List Edge := g.edges.filter (!·.isConfirmed)

/-- The graph with an edge confirmed, and the edge as stored. -/
def confirm (g : Graph) (e : Edge) (cardinality : Datum) : Edge × Graph :=
  let confirmed := e.confirmed cardinality
  (confirmed, g.add confirmed)

/-- The graph without an edge. -/
def remove (g : Graph) (e : Edge) : Graph := ⟨g.edges.filter (!·.same e)⟩

/-- True when removing an edge leaves another number of edges. -/
def removes (g : Graph) (e : Edge) : Bool := (g.remove e).edges.length != g.edges.length

/-- True when the graph holds the relationship of an edge. -/
def contains (g : Graph) (e : Edge) : Bool := containsEdge g.edges e

/-- The graph with just these edges in place of all. -/
def replaceAll (_ : Graph) (edges : List Edge) : Graph := ofEdges edges

/-- The graph with its confirmed edges and fresh suggestions, and those suggestions. -/
def refreshBy (g : Graph) (accepts : String → Bool) (tables : List Schema.Table) :
    List Edge × Graph :=
  let found := suggestionsBy accepts tables g.confirmed
  (found, ⟨g.confirmed ++ found⟩)

/-- The graph with fresh suggestions for names that look like identifiers, and those. -/
def refresh (g : Graph) (m : Matcher) (tables : List Schema.Table) : List Edge × Graph :=
  g.refreshBy m.accepts tables

end Graph

end ChartBoard.Relationship
