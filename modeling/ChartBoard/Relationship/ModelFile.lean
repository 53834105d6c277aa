import ChartBoard.Relationship.Graph

/-!
# The model file

The confirmed edges are kept in a file between runs.  Its content is read once and then
remembered until the file is saved again.

* `edgesOfModel` reads the content of the file, `modelOfEdges` makes it.
* `ModelFile.load` and `ModelFile.save` work on the file and on what is remembered of it.
-/

namespace ChartBoard.Relationship

/-- The edges in the content of a model file; none when it is empty. -/
def edgesOfModel (model : Datum) : Except Fault (List Edge) :=
  if !model.truthy then .ok []
  else match model with
    | .object _ => do (← (model.get "relationships").itemsIfAny).mapM Edge.ofDatum
    | _ => .error .noOperation

/-- The content of a model file: the confirmed ones of some edges. -/
def modelOfEdges (edges : List Edge) : Datum :=
  .object [("version", .int 1),
    ("relationships", .list ((confirmedOf edges).map Edge.toDatum))]

/-- A file that may be absent, and the edges remembered from the last reading. -/
structure ModelFile where
  content : Option Datum := none
  remembered : Option (List Edge) := none

namespace ModelFile

/-- The edges in the file, from memory where they are remembered. -/
def load (f : ModelFile) : Except Fault (List Edge) × ModelFile :=
  match f.remembered with
  | some edges => (.ok edges, f)
  | none =>
    match f.content with
    | none => (.ok [], { f with remembered := some [] })
    | some model =>
      match edgesOfModel model with
      | .ok edges => (.ok edges, { f with remembered := some edges })
      | .error fault => (.error fault, f)

/-- The file with the confirmed ones of some edges, which are read anew. -/
def save (_ : ModelFile) (edges : List Edge) : ModelFile := ⟨some (modelOfEdges edges), none⟩

/-- The file changed by another hand; what is remembered stays. -/
def overwrite (f : ModelFile) (model : Datum) : ModelFile := { f with content := some model }

/-- The graph of the edges in the file. -/
def bootstrap (f : ModelFile) (g : Graph) : Except Fault Graph × ModelFile :=
  match f.load with
  | (.ok edges, f) => (.ok (g.replaceAll edges), f)
  | (.error fault, f) => (.error fault, f)

end ModelFile

end ChartBoard.Relationship
