import ChartBoard.Board
import ChartBoard.Http.Body
import ChartBoard.Http.Forms
import ChartBoard.Http.Response

/-!
# Handlers

Computations on the board that end in a value to send or in another response.

* `reported` lets the client know of faults, `guarded` keeps them from it.
* `bodyAs` and `parametersAs` read what the client has sent.
-/

namespace ChartBoard.Http

/-- A request. -/
structure Request where
  method : String
  path : String
  parameters : List (String × String) := []
  body : Body := .absent

/-- A computation on the board that may end early with a response. -/
abbrev Handler (α : Type) := ExceptT Response (StateM Board) α

namespace Handler

variable {α : Type}

/-- The response of a handler and the board after it. -/
def respond (h : Handler Datum) (b : Board) : Response × Board :=
  match h b with
  | (.ok v, b) => (.ok v, b)
  | (.error r, b) => (r, b)

/-- A task whose fault becomes a response. -/
def ofTask (response : Fault → Response) (t : Task Board α) : Handler α := fun b =>
  let (r, b) := Task.outcome t b
  (r.mapError response, b)

end Handler

variable {α : Type}

/-- A task whose faults the client is told. -/
def reported (t : Task Board α) : Handler α := Handler.ofTask Response.ofFault t

/-- A task whose faults the client is not told. -/
def guarded (t : Task Board α) : Handler α := Handler.ofTask (fun _ => .broken) t

/-- The body of a request in some form. -/
def bodyAs (read : Form.Reader α) (body : Body) : Handler α :=
  let unusable (kind : Form.ProblemKind) := Response.ofProblems "body" .null [⟨[], kind⟩]
  match body with
  | .absent => throw (unusable .missing)
  | .malformed => throw (unusable .notInterchange)
  | .unreadable => throw .unreadable
  | .value v =>
    match read v with
    | .ok a => pure a
    | .error problems => throw (.ofProblems "body" v problems)

/-- The parameters of a request as the members of an object. -/
def Request.parameterRecord (q : Request) : Record := q.parameters.map fun (k, s) => (k, .text s)

/-- What is read of the parameters of a request. -/
def parametersAs (read : Record → Form.Checked α) (q : Request) : Handler α :=
  match read q.parameterRecord with
  | .ok a => pure a
  | .error problems => throw (.ofProblems "query" (.object q.parameterRecord) problems)

end ChartBoard.Http
