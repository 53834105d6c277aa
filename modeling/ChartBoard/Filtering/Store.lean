import ChartBoard.Datum.Unique
import ChartBoard.Filtering.Active

/-!
# The store of active filters

At most one filter for a key, with a version that counts the changes.

* `Store.get?`, `Store.put`, `Store.erase`, `Store.clear` and `Store.replaceAll` are its
  operations; the version grows with every one that changes a filter.
-/

namespace ChartBoard.Filtering

/-- The active filters in the order in which their keys came, and the number of changes so far. -/
structure Store where
  filters : List ActiveFilter := []
  version : Nat := 0

namespace Store

/-- The filter under a key. -/
def find? (s : Store) (key : String) : Option ActiveFilter := s.filters.find? fun f => f.key == key

/-- The filter on a column of a table. -/
def get? (s : Store) (table column : String) : Option ActiveFilter := s.find? (keyOf table column)

/-- The values that the filter on a column allows. -/
def applied (s : Store) (table column : String) : List Datum :=
  ((s.get? table column).map (·.values)).getD []

/-- The filters with one set in the place of the one with its key, or added at the end. -/
def place (new : ActiveFilter) : List ActiveFilter → List ActiveFilter
  | [] => [new]
  | f :: rest => if f.key = new.key then new :: rest else f :: place new rest

/-- True when a filter of the same key holds the same selection. -/
def holds (s : Store) (new : ActiveFilter) : Bool :=
  match s.find? new.key with
  | some f => sameSelection f.values new.values
  | none => false

/-- The store with a filter set, unless the one there holds the same selection. -/
def put (s : Store) (new : ActiveFilter) : Store :=
  if s.holds new then s else ⟨place new s.filters, s.version + 1⟩

/-- The store without the filter on a column. -/
def erase (s : Store) (table column : String) : Store :=
  if (s.get? table column).isSome then
    ⟨s.filters.filter fun f => f.key != keyOf table column, s.version + 1⟩
  else s

/-- The store without filters. -/
def clear (s : Store) : Store := if s.filters.isEmpty then s else ⟨[], s.version + 1⟩

/-- The store with other filters; of those with one key the last stays.  This always counts as a
change. -/
def replaceAll (s : Store) (filters : List ActiveFilter) : Store :=
  ⟨filters.foldl (fun acc f => place f acc) [], s.version + 1⟩

end Store

end ChartBoard.Filtering
