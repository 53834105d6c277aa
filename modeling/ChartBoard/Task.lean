import ChartBoard.Fault

/-!
# Tasks

Computations that change a state and may end in a fault.  What they changed until then stays
changed.

* `Task.attempt` gives the fault as a result, `Task.relabel` changes it.
* `Task.on` runs a task on a part of a larger state.
-/

namespace ChartBoard

/-- A computation on a state with a result or a fault. -/
abbrev Task (σ α : Type) := ExceptT Fault (StateM σ) α

namespace Task

variable {σ τ α : Type}

/-- The outcome of a task and the state after it. -/
def outcome (t : Task σ α) (s : σ) : Except Fault α × σ := t s

/-- The task whose outcome and next state are given. -/
def ofOutcome (f : σ → Except Fault α × σ) : Task σ α := f

/-- A result or a fault, without any change. -/
def ofExcept (r : Except Fault α) : Task σ α := ofOutcome fun s => (r, s)

/-- The outcome of a task as a result. -/
def attempt (t : Task σ α) : Task σ (Except Fault α) :=
  ofOutcome fun s => let (r, s) := outcome t s; (.ok r, s)

/-- A task with another fault in the place of its own. -/
def relabel (change : Fault → Fault) (t : Task σ α) : Task σ α :=
  ofOutcome fun s => let (r, s) := outcome t s; (r.mapError change, s)

/-- A task on a part of a state. -/
def on (part : σ → τ) (replace : τ → σ → σ) (t : Task τ α) : Task σ α :=
  ofOutcome fun s => let (r, p) := outcome t (part s); (r, replace p s)

end Task

end ChartBoard
