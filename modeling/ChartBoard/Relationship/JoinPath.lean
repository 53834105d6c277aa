import ChartBoard.Relationship.Edge
import ChartBoard.Relationship.Field
import ChartBoard.Sql.Query

/-!
# Join paths

The joins of a statement form a star: every table it uses is joined directly to its base table by
the first confirmed edge between the two.

* `JoinPath.resolve` finds the joins for a list of tables, or names the first table without one.
* `JoinPath.column` turns a field reference into a column of the statement.
* `JoinPath.tables` lists the tables with their join conditions.
-/

namespace ChartBoard.Relationship

/-- A base table and the tables joined to it, each with its edge.  The base table stands at
position zero, the others follow in order. -/
structure JoinPath where
  base : String
  joined : List (String × Edge)

namespace JoinPath

/-- The tables in the order of their positions. -/
def names (p : JoinPath) : List String := p.base :: p.joined.map (·.1)

/-- The position of a table. -/
def position? (p : JoinPath) (table : String) : Option Nat := p.names.findIdx? (· == table)

/-- The tables with their aliases. -/
def aliases (p : JoinPath) : List (String × String) :=
  p.names.zipIdx.map fun (table, i) => (table, Sql.sourceAlias i)

/-- The path with one more table, unless the table is empty or there already. -/
def join (confirmed : List Edge) (p : JoinPath) (table : String) : Except Fault JoinPath :=
  if table.isEmpty || table ∈ p.names then .ok p
  else match confirmed.find? fun e => e.connects p.base table with
    | some e => .ok { p with joined := p.joined ++ [(table, e)] }
    | none => .error (.missingRelationship p.base table)

/-- The path from a base table to every table of a list. -/
def resolve (base : String) (tables : List String) (edges : List Edge) : Except Fault JoinPath :=
  tables.foldlM (join (confirmedOf edges)) ⟨base, []⟩

/-- The columns of an edge: the one of the base table first. -/
def columnsOf (base : String) (e : Edge) : String × String :=
  if e.left.table == base then (e.left.column, e.right.column) else (e.right.column, e.left.column)

/-- The joined tables with their conditions. -/
def tables (p : JoinPath) : Sql.From where
  base := p.base
  joins := p.joined.zipIdx.map fun ((table, e), i) =>
    let (baseColumn, column) := columnsOf p.base e
    ⟨table, i + 1, baseColumn, column⟩

/-- The column that a field reference means in the statement. -/
def column (p : JoinPath) (reference : String) : Except Fault Sql.Expr :=
  let f := Field.parse p.base reference
  match p.position? f.table with
  | some i => .ok (.column i f.column)
  | none => .error (.missingRelationship p.base f.table)

end JoinPath

end ChartBoard.Relationship
