import ChartBoard.Kpi.Recompute

/-!
# Requests at the same time

Several requests for key figures are under way at once; the engine answers them in any order.

* `Office.handle` is what a new request or an answer of the engine does.
* `Office.run` is what becomes of several of these in turn.
-/

namespace ChartBoard.Kpi

/-- A request under way, and what became of it once the engine has answered.  A request without a
statement has its outcome at once. -/
structure Call where
  started : Started
  outcome : Option (Except Fault (Option Record))

/-- The versions and all requests so far, in the order in which they came. -/
structure Office where
  versions : Versions := {}
  calls : List Call := []

/-- What happens at an office. -/
inductive Event where
  | request (q : Request)
  /-- The engine answers a request. -/
  | answer (call : Nat) (rows : Except Fault (List Record))

namespace Office

/-- A request when it comes in. -/
def opened (s : Started) : Call :=
  match s.statement with
  | .ok (some _) => ⟨s, none⟩
  | .ok none => ⟨s, some (.ok none)⟩
  | .error fault => ⟨s, some (.error fault)⟩

/-- A request once the engine has answered; an answer that was not waited for changes nothing. -/
def answered (v : Versions) (rows : Except Fault (List Record)) (c : Call) : Call :=
  match c.outcome with
  | none => { c with outcome := some (finish v c.started rows) }
  | some _ => c

/-- The office after an event. -/
def handle (settings : Settings) (o : Office) : Event → Office
  | .request q =>
    let (v, started) := start settings o.versions q
    ⟨v, o.calls ++ [opened started]⟩
  | .answer call rows => { o with calls := o.calls.modify call (answered o.versions rows) }

/-- The office after several events. -/
def run (settings : Settings) (o : Office) (events : List Event) : Office :=
  events.foldl (handle settings) o

end Office

end ChartBoard.Kpi
