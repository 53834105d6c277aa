import ChartBoard.Chart.KeyFigure
import ChartBoard.Engine.Session
import ChartBoard.Kpi.Constraints

/-!
# Key figures under filters

Each request for a key figure takes a version; when its rows come in, they count only if no newer
request for the same widget was made in the meantime.

* `start` takes a version and says what to ask the engine.
* `finish` makes the key figure of the engine's answer, unless the version is no longer current.
* `recompute` does both around the engine.
-/

namespace ChartBoard.Kpi

open Engine (Session execute)

/-- The latest version of each widget. -/
structure Versions where
  latest : List (String × Nat) := []

namespace Versions

/-- The latest version of a widget, zero before its first request. -/
def version (v : Versions) (widget : String) : Nat := (Keyed.get? v.latest widget).getD 0

/-- The versions after a new request. -/
def next (v : Versions) (widget : String) : Versions :=
  ⟨Keyed.set v.latest widget (v.version widget + 1)⟩

/-- True of the latest version of a widget that was requested at all. -/
def isCurrent (v : Versions) (widget : String) (version : Int) : Bool :=
  match Keyed.get? v.latest widget with
  | some n => (n : Int) == version
  | none => false

end Versions

/-- What a request asks for. -/
structure Request where
  widget : String
  source : Widget.Source
  /-- The filters, or why they cannot be read. -/
  filters : Except Fault (List Filtering.ActiveFilter)
  edges : List Relationship.Edge
  schemas : List Schema.Table
  /-- What the key figure is built on: the members of an object, or nothing. -/
  base : Datum

/-- The filters that a request takes into account. -/
def Request.activeFilters (q : Request) : Except Fault (List Filtering.ActiveFilter) :=
  if isFilterable q.source then q.filters else .ok []

/-- The statement of a request, if any filter concerns it and it can be compiled. -/
def Request.statement? (settings : Settings) (q : Request) : Except Fault (Option String) := do
  match constraints? q.source (← q.activeFilters) with
  | none => .ok none
  | some constraints =>
    match q.source.compile settings q.edges q.schemas constraints with
    | .ok compiled => .ok (some compiled.sql)
    | .error fault => if fault.isShown then .ok none else .error fault

/-- The members of what a key figure is built on.  What reads as false has none. -/
def baseMembers (base : Datum) : Except Fault Record :=
  match base with
  | .object members => .ok members
  | v => if v.truthy then .error .wrongKind else .ok []

/-- The key figure in the first row, over the members of another. -/
def keyFigureOf (base : Datum) (rows : List Record) : Except Fault (Option Record) :=
  match rows with
  | [] => .ok none
  | row :: _ => do
    let readings ← Chart.readings row
    return some (Record.merge (← baseMembers base) readings)

/-- A request under way: its version and the statement to be sent, if there is one. -/
structure Started where
  widget : String
  version : Nat
  base : Datum
  statement : Except Fault (Option String)

/-- The versions after a request has taken its own, and the request under way. -/
def start (settings : Settings) (v : Versions) (q : Request) : Versions × Started :=
  let v := v.next q.widget
  (v, ⟨q.widget, v.version q.widget, q.base, q.statement? settings⟩)

/-- What becomes of a request when the engine has answered: nothing if it is no longer current or
the statement was rejected. -/
def finish (v : Versions) (s : Started) (answer : Except Fault (List Record)) :
    Except Fault (Option Record) :=
  match answer with
  | .ok rows => if v.isCurrent s.widget s.version then keyFigureOf s.base rows else .ok none
  | .error fault => if fault.isShown then .ok none else .error fault

/-- The versions together with the engine. -/
structure Desk where
  versions : Versions := {}
  database : Engine.Database := {}

/-- A statement of the engine at the desk. -/
def ask (sql : String) : Task Desk (List Record) :=
  Task.on (·.database) (fun db d => { d with database := db }) (execute sql)

/-- The key figure of a request under its filters; none when no filter concerns it, its statement
fails or a newer request was made.  `meanwhile` is what other requests do to the versions while the
engine works. -/
def recompute (settings : Settings) (meanwhile : Versions → Versions) (q : Request) :
    Task Desk (Option Record) := do
  let (v, started) := start settings (← get).versions q
  modify fun d => { d with versions := v }
  match ← Task.ofExcept started.statement with
  | none => return none
  | some sql =>
    let answer ← Task.attempt (ask sql)
    modify fun d => { d with versions := meanwhile d.versions }
    Task.ofExcept (finish (← get).versions started answer)

end ChartBoard.Kpi
