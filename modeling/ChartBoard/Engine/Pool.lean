import ChartBoard.Settings

/-!
# The shared engine

The engine is opened when it is first needed and shared from then on, until it is given up.

* `Pool.acquire` gives the shared engine, `Pool.release` gives it up.
-/

namespace ChartBoard.Engine

/-- How an engine was opened.  A database in memory lives in a single connection, which all users
then share. -/
structure Opening where
  url : String
  singleConnection : Bool
deriving DecidableEq, Repr

/-- The openings so far, the latest last, and whether that engine is still shared. -/
structure Pool where
  openings : List Opening := []
  isOpen : Bool := false
deriving DecidableEq, Repr

/-- How an engine is opened under the settings. -/
def Opening.ofSettings (settings : Settings) : Opening :=
  if settings.isInMemory then ⟨"duckdb:///:memory:", true⟩ else ⟨settings.databaseUrl, false⟩

/-- The pool with an engine to share. -/
def Pool.acquire (settings : Settings) (p : Pool) : Pool :=
  if p.isOpen then p else ⟨p.openings ++ [.ofSettings settings], true⟩

/-- The pool without an engine to share. -/
def Pool.release (p : Pool) : Pool := { p with isOpen := false }

end ChartBoard.Engine
