import ChartBoard.Json.Reading
import ChartBoard.Settings

/-!
# Bodies of requests

What a client sends along with a request, as far as it can be read.

* `Body.ofText` reads the text of a body.
-/

namespace ChartBoard.Http

/-- The body of a request. -/
inductive Body where
  | absent
  | value (v : Datum)
  /-- Text that is not in the interchange format. -/
  | malformed
  /-- Text that goes beyond what can be read. -/
  | unreadable

/-- A text without the byte order mark that may stand at its start. -/
def withoutMark (s : String) : String :=
  match s.toList with
  | c :: rest => if c.toNat = 0xfeff then String.ofList rest else s
  | [] => s

/-- The body that a text is; an empty text is none. -/
def Body.ofText (limits : Limits) (s : String) : Body :=
  if s.isEmpty then absent
  else match Json.read limits.reading (withoutMark s) with
    | .ok v => value v
    | .error .malformed => malformed
    | .error _ => unreadable

end ChartBoard.Http
