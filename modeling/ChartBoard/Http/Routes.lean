import ChartBoard.Http.Edges
import ChartBoard.Http.Filters
import ChartBoard.Http.Tables
import ChartBoard.Http.Widgets

/-!
# Routes

* `Endpoint` lists what can be asked for, `resolve` finds it by method and path.
* `serve` answers a request.
-/

namespace ChartBoard.Http

/-- What can be asked for. -/
inductive Endpoint where
  | health
  | listTables
  | makeDateTable
  | listEdges
  | addEdge
  | removeEdge
  | confirmEdge
  | suggestEdges
  | compileWidget
  | renderWidget
  | drawFigure
  | recomputeKeyFigure
  | listFilters
  | clearFilters
  | listOptions
  | selectValue
  | applySelection
  | askQuestion
deriving DecidableEq, Repr

namespace Endpoint

/-- All endpoints. -/
def all : List Endpoint :=
  [health, listTables, makeDateTable, listEdges, addEdge, removeEdge, confirmEdge, suggestEdges,
   compileWidget, renderWidget, drawFigure, recomputeKeyFigure, listFilters, clearFilters,
   listOptions, selectValue, applySelection, askQuestion]

/-- The method and the path of an endpoint. -/
def address : Endpoint → String × String
  | health => ("GET", "/health")
  | listTables => ("GET", "/catalog/tables")
  | makeDateTable => ("POST", "/catalog/date-table")
  | listEdges => ("GET", "/relationships")
  | addEdge => ("POST", "/relationships")
  | removeEdge => ("DELETE", "/relationships")
  | confirmEdge => ("POST", "/relationships/confirm")
  | suggestEdges => ("GET", "/relationships/suggested")
  | compileWidget => ("POST", "/widgets/compile")
  | renderWidget => ("POST", "/widgets/render")
  | drawFigure => ("POST", "/widgets/figure")
  | recomputeKeyFigure => ("POST", "/widgets/kpi")
  | listFilters => ("GET", "/filters")
  | clearFilters => ("DELETE", "/filters")
  | listOptions => ("GET", "/filters/options")
  | selectValue => ("POST", "/filters/select")
  | applySelection => ("POST", "/filters/apply")
  | askQuestion => ("POST", "/assistant/ask")

/-- What an endpoint does. -/
def handler (settings : Settings) (q : Request) : Endpoint → Handler Datum
  | health => pure (.object [("status", .text "ok")])
  | listTables => Http.listTables settings
  | makeDateTable => Http.makeDateTable q.body
  | listEdges => Http.listEdges
  | addEdge => Http.addEdge q.body
  | removeEdge => Http.removeEdge q.body
  | confirmEdge => Http.confirmEdge q.body
  | suggestEdges => Http.suggestEdges settings
  | compileWidget => Http.compileWidget settings q.body
  | renderWidget => Http.renderWidget settings q.body
  | drawFigure => Http.drawFigure settings q.body
  | recomputeKeyFigure => Http.recomputeKeyFigure settings q.body
  | listFilters => Http.listFilters
  | clearFilters => Http.clearFilters q
  | listOptions => Http.listOptions settings q
  | selectValue => Http.selectValue q.body
  | applySelection => Http.applySelection
  | askQuestion => Http.askQuestion settings q.body

end Endpoint

/-- A path without the slashes at its end. -/
def trimmedPath (path : String) : String :=
  if path == "/" then path
  else String.ofList (path.toList.reverse.dropWhile (· == '/')).reverse

/-- The endpoints at a path; slashes at its end do not matter. -/
def endpointsAt (path : String) : List Endpoint :=
  Endpoint.all.filter fun e => e.address.2 == trimmedPath path

/-- Where a request leads. -/
inductive Resolution where
  | found (e : Endpoint)
  | wrongMethod
  | unknown
deriving DecidableEq, Repr

/-- The endpoint that a method and a path name. -/
def resolve (method path : String) : Resolution :=
  match endpointsAt path with
  | [] => .unknown
  | there =>
    match there.find? fun e => e.address.1 == method with
    | some e => .found e
    | none => .wrongMethod

/-- The response to a request and the board after it. -/
def serve (settings : Settings) (q : Request) (b : Board) : Response × Board :=
  match resolve q.method q.path with
  | .found e => (e.handler settings q).respond b
  | .wrongMethod => (.wrongMethod, b)
  | .unknown => (.unknown, b)

end ChartBoard.Http
