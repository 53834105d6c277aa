import ChartBoard.Datum.Parts
import ChartBoard.Fault
import ChartBoard.Form.Problem

/-!
# Responses

* `Response.ofFault` and `Response.ofProblems` are the responses to requests that fail.
* `transmitted` is a value as it arrives at the client.
-/

namespace ChartBoard.Http

/-- What a response holds. -/
inductive Content where
  | json (v : Datum)
  | plain (s : String)

/-- The content as a value. -/
def Content.toDatum : Content → Datum
  | json v => v
  | plain s => .text s

/-- A status with its content. -/
structure Response where
  status : Nat
  content : Content

/-! ## Values on the way to the client -/

mutual

/-- A value as the client gets it: numbers that are not finite become null, decimals, dates and
times texts. -/
def transmitted : Datum → Datum
  | .float x => if x.isFinite then .float x else .null
  | .decimal d => .text d.text
  | .date d => .text d.iso
  | .moment m => .text m.stamp
  | .duration d => .text d.stamp
  | .clock c => .text c.iso
  | .list items => .list (transmittedItems items)
  | .object members => .object (transmittedMembers members)
  | v => v

/-- The items of a list as the client gets them. -/
def transmittedItems : List Datum → List Datum
  | [] => []
  | item :: rest => transmitted item :: transmittedItems rest

/-- The members of an object as the client gets them. -/
def transmittedMembers : List (String × Datum) → List (String × Datum)
  | [] => []
  | (name, v) :: rest => (name, transmitted v) :: transmittedMembers rest

end

/-! ## Kinds of responses -/

namespace Response

/-- The response to a request that succeeds. -/
def ok (v : Datum) : Response := ⟨200, .json (transmitted v)⟩

/-- A response that says what is wrong. -/
def withDetail (status : Nat) (detail : Datum) : Response :=
  ⟨status, .json (.object [("detail", detail)])⟩

/-- The response when something breaks that nobody accounts for. -/
def broken : Response := ⟨500, .plain "Internal Server Error"⟩

/-- The response to a body that cannot be read at all. -/
def unreadable : Response := withDetail 400 (.text "There was an error parsing the body")

/-- The response where there is nothing. -/
def unknown : Response := withDetail 404 (.text "Not Found")

/-- The response to a method that a place does not know. -/
def wrongMethod : Response := withDetail 405 (.text "Method Not Allowed")

/-- The response that reports a fault: the client's own misuse, a statement that the engine
rejects, or anything else. -/
def ofFault (fault : Fault) : Response :=
  match fault with
  | .misuse _ | .missingRelationship _ _ => withDetail 422 (.text fault.message)
  | .query sql message =>
    withDetail 400 (.object [("message", .text message), ("sql", .text sql)])
  | _ => withDetail 500 (.text fault.message)

/-! ## Problems -/

/-- The description of a step of a location. -/
def stepDatum : Form.Step → Datum
  | .member name => .text name
  | .item i => .int i

/-- The description of a problem. -/
def problemDatum (p : Form.Problem) : Datum :=
  .object [("loc", .list (p.location.map stepDatum)), ("type", .text p.kind.code)]

/-- The part of a value at a location.  Steps that lead nowhere are passed over. -/
def partAt : Datum → List Form.Step → Datum
  | v, [] => v
  | .object r, .member name :: rest =>
    match Record.get? r name with
    | some part => partAt part rest
    | none => partAt (.object r) rest
  | .list items, .item i :: rest =>
    match items[i]? with
    | some part => partAt part rest
    | none => partAt (.list items) rest
  | v, _ :: rest => partAt v rest

/-- The response to problems with the part `place` of a request.  The report repeats the values
that are at fault, which fails for numbers that are not finite. -/
def ofProblems (place : String) (v : Datum) (problems : List Form.Problem) : Response :=
  if problems.all fun p => (partAt v p.location).isFinite then
    withDetail 422 (.list (problems.map fun p => problemDatum (p.within (.member place))))
  else broken

end Response

end ChartBoard.Http
