import ChartBoard.Schema

/-!
# Join edges

An edge joins a column of one table to a column of another.  It has no direction: an edge and its
reverse are the same relationship.  Only edges with the status `confirmed` are used for joins;
the others wait for acceptance.

* `Edge.same` compares edges in either orientation.
* `relatedTables` lists the tables that confirmed edges join to a base table.
* `Edge.ofDatum` reads an edge, `Edge.toDatum` describes it.
-/

namespace ChartBoard.Relationship

/-- One end of an edge. -/
structure Endpoint where
  table : String
  column : String
deriving DecidableEq, Repr

/-- A join edge. -/
structure Edge where
  left : Endpoint
  right : Endpoint
  /-- The status word as given. -/
  status : Datum
  cardinality : Datum

/-- The status of an edge that may be used for joins. -/
def confirmedStatus : String := "confirmed"

/-- The status of an edge that waits for acceptance. -/
def suggestedStatus : String := "suggested"

/-- The cardinality of an edge unless another is given. -/
def defaultCardinality : String := "one-to-many"

namespace Edge

/-- True of an edge that may be used for joins. -/
def isConfirmed (e : Edge) : Bool :=
  match e.status with
  | .text s => s == confirmedStatus
  | _ => false

/-- True when the edge joins the two tables, in either orientation. -/
def connects (e : Edge) (a b : String) : Bool :=
  (e.left.table == a && e.right.table == b) || (e.left.table == b && e.right.table == a)

/-- True when two edges join the same two columns, in either orientation. -/
def same (a b : Edge) : Bool :=
  (a.left == b.left && a.right == b.right) || (a.left == b.right && a.right == b.left)

/-- The edge as accepted, with another cardinality if one is given. -/
def confirmed (e : Edge) (cardinality : Datum) : Edge :=
  { e with status := .text confirmedStatus, cardinality := cardinality.orElse e.cardinality }

/-- The edge that a description spells. -/
def ofDatum (v : Datum) : Except Fault Edge := do
  let r ← Schema.requireObject v
  let table1 ← Schema.require r "table1"
  let col1 ← Schema.require r "col1"
  let table2 ← Schema.require r "table2"
  let col2 ← Schema.require r "col2"
  return {
    left := ⟨table1.display, col1.display⟩
    right := ⟨table2.display, col2.display⟩
    status := (r.get "type").orElse (.text confirmedStatus)
    cardinality := (r.get "cardinality").orElse (.text defaultCardinality) }

/-- The description of an edge. -/
def toDatum (e : Edge) : Datum :=
  .object [("table1", .text e.left.table), ("col1", .text e.left.column),
    ("table2", .text e.right.table), ("col2", .text e.right.column),
    ("type", e.status), ("cardinality", e.cardinality)]

end Edge

/-- The edges that may be used for joins. -/
def confirmedOf (edges : List Edge) : List Edge := edges.filter Edge.isConfirmed

/-- True when one of the edges is the same relationship. -/
def containsEdge (edges : List Edge) (e : Edge) : Bool := edges.any fun x => x.same e

/-- The table at the other end of an edge from `base`. -/
def otherEnd? (base : String) (e : Edge) : Option String :=
  if e.left.table == base then some e.right.table
  else if e.right.table == base then some e.left.table
  else none

/-- The base table and the tables that a confirmed edge joins directly to it. -/
def relatedTables (base : String) (edges : List Edge) : List String :=
  distinctFromBase [base] ((confirmedOf edges).filterMap (otherEnd? base))
where
  /-- The tables seen so far with the new ones added at the end. -/
  distinctFromBase (seen : List String) : List String → List String
    | [] => seen
    | t :: rest => distinctFromBase (if t ∈ seen then seen else seen ++ [t]) rest

end ChartBoard.Relationship
