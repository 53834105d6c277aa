import ChartBoard.Proofs.Relationship.JoinPath
import Mathlib.Logic.Relation

/-!
# What a star of joins depends on

The joins of a statement run between its base table and the other tables it uses.  Of a list of
edges they take, for each of these tables, the two columns of the first confirmed edge to it, and
nothing else: neither the orientation nor the cardinality of an edge nor any edge that does not
join the base table to another one.

* `Rearranged` says which changes of a list of edges leave the joins alone.
* `joinColumns?` is what a path takes of the list, `joinColumns?_rearranged` says that it stays.
* `JoinPath.legs` is what a statement takes of a path, `JoinPath.resolve_legs` says that it follows
  from the join columns.
-/

namespace ChartBoard.Relationship

/-! ## Changes of a list of edges -/

/-- The edge in the other orientation. -/
def Edge.reversed (e : Edge) : Edge := { e with left := e.right, right := e.left }

/-- True of an edge that is not confirmed or does not join the base table to another one. -/
def Edge.Unused (base : String) (e : Edge) : Prop :=
  e.isConfirmed = false ∨ ∀ table ≠ base, e.connects base table = false

/-- A change of one edge that the joins of a base table do not show. -/
inductive Rearrangement (base : String) : List Edge → List Edge → Prop
  | reverse (before : List Edge) (e : Edge) (after : List Edge) :
      Rearrangement base (before ++ e :: after) (before ++ e.reversed :: after)
  | relabel (before : List Edge) (e : Edge) (cardinality : Datum) (after : List Edge) :
      Rearrangement base (before ++ e :: after)
        (before ++ { e with cardinality := cardinality } :: after)
  | insert (before : List Edge) {e : Edge} (h : e.Unused base) (after : List Edge) :
      Rearrangement base (before ++ after) (before ++ e :: after)
  | delete (before : List Edge) {e : Edge} (h : e.Unused base) (after : List Edge) :
      Rearrangement base (before ++ e :: after) (before ++ after)

/-- Any number of such changes, one after the other. -/
def Rearranged (base : String) : List Edge → List Edge → Prop :=
  Relation.ReflTransGen (Rearrangement base)

/-! ## Join columns -/

/-- The columns on which an edge joins a table to the base table, that of the base table first. -/
def Edge.joinOn? (base table : String) (e : Edge) : Option (String × String) :=
  if e.isConfirmed && e.connects base table then some (JoinPath.columnsOf base e) else none

/-- The columns on which the first confirmed edge joins a table to the base table. -/
def joinColumns? (base : String) (edges : List Edge) (table : String) : Option (String × String) :=
  edges.findSome? (Edge.joinOn? base table)

section

variable {base table : String} {edges edges' : List Edge}

theorem map_find?_confirmedOf :
    ((confirmedOf edges).find? fun e => e.connects base table).map (JoinPath.columnsOf base) =
      joinColumns? base edges table := by
  unfold joinColumns? confirmedOf
  induction edges with
  | nil => rfl
  | cons e rest ih =>
    rw [List.filter_cons, List.findSome?_cons, ← ih]
    cases hconfirmed : e.isConfirmed with
    | false => simp [Edge.joinOn?, hconfirmed]
    | true => cases hconnects : e.connects base table <;> simp [Edge.joinOn?, hconfirmed, hconnects]

theorem Edge.joinOn?_of_unused {e : Edge} (h : e.Unused base) (htable : table ≠ base) :
    e.joinOn? base table = none := by
  rcases h with hconfirmed | hconnects
  · simp [joinOn?, hconfirmed]
  · simp [joinOn?, hconnects table htable]

/-- Of an edge to another table only one end lies at the base table, whichever comes first. -/
theorem Edge.joinOn?_reversed (e : Edge) (htable : table ≠ base) :
    e.reversed.joinOn? base table = e.joinOn? base table := by
  have hconfirmed : e.reversed.isConfirmed = e.isConfirmed := rfl
  have hconnects : e.reversed.connects base table = e.connects base table := by
    simp only [connects, reversed]
    rw [Bool.or_comm, Bool.and_comm (e.right.table == table), Bool.and_comm (e.right.table == base)]
  unfold joinOn?
  rw [hconfirmed, hconnects]
  split
  · rename_i hjoins
    have hends : e.left.table = base ∧ e.right.table = table ∨
        e.left.table = table ∧ e.right.table = base := by
      simpa [connects] using (Bool.and_eq_true_iff.mp hjoins).2
    have hcolumns : JoinPath.columnsOf base e.reversed = JoinPath.columnsOf base e := by
      rcases hends with ⟨hleft, hright⟩ | ⟨hleft, hright⟩ <;>
        simp [JoinPath.columnsOf, reversed, hleft, hright, htable]
    rw [hcolumns]
  · rfl

/-- A single change leaves the first edge to every other table as it was. -/
theorem joinColumns?_rearrangement (h : Rearrangement base edges edges') (htable : table ≠ base) :
    joinColumns? base edges table = joinColumns? base edges' table := by
  unfold joinColumns?
  cases h with
  | reverse before e after =>
    rw [List.findSome?_append, List.findSome?_append, List.findSome?_cons, List.findSome?_cons,
      e.joinOn?_reversed htable]
  | relabel before e cardinality after =>
    rw [List.findSome?_append, List.findSome?_append, List.findSome?_cons, List.findSome?_cons]
    rfl
  | insert before hunused after => simp [Edge.joinOn?_of_unused hunused htable]
  | delete before hunused after => simp [Edge.joinOn?_of_unused hunused htable]

theorem joinColumns?_rearranged (h : Rearranged base edges edges') (htable : table ≠ base) :
    joinColumns? base edges table = joinColumns? base edges' table := by
  induction h with
  | refl => rfl
  | tail _ hstep ih => exact ih.trans (joinColumns?_rearrangement hstep htable)

end

/-! ## Paths -/

namespace JoinPath

/-- What a statement takes of a path: the base table, and the joined tables in order with the
columns they are joined on. -/
def legs (p : JoinPath) : String × List (String × String × String) :=
  (p.base, p.joined.map fun j => (j.1, columnsOf p.base j.2))

variable {p q : JoinPath}

theorem base_of_legs (h : p.legs = q.legs) : p.base = q.base := congrArg Prod.fst h

theorem names_of_legs (h : p.legs = q.legs) : p.names = q.names := by
  have hnames (r : JoinPath) : r.names = r.legs.1 :: r.legs.2.map (·.1) := by
    simp [names, legs, Function.comp_def]
  rw [hnames, hnames, h]

theorem column_of_legs (h : p.legs = q.legs) : p.column = q.column := by
  funext reference
  unfold column position?
  rw [base_of_legs h, names_of_legs h]

theorem tables_of_legs (h : p.legs = q.legs) : p.tables = q.tables := by
  have htables (r : JoinPath) : r.tables = ⟨r.legs.1, r.legs.2.zipIdx.map fun (leg, i) =>
      ⟨leg.1, i + 1, leg.2.1, leg.2.2⟩⟩ := by
    simp [tables, legs, List.zipIdx_map, Function.comp_def]
  rw [htables, htables, h]

variable {base : String} {edges edges' : List Edge}

/-- The next leg follows from the legs so far and the join columns of its table. -/
theorem join_legs (hcolumns : ∀ table ≠ base, joinColumns? base edges table =
      joinColumns? base edges' table) (hbase : p.base = base) (h : p.legs = q.legs)
    (table : String) : (p.join (confirmedOf edges) table).map legs =
      (q.join (confirmedOf edges') table).map legs := by
  have hlegs (r : JoinPath) (e : Edge) : legs { r with joined := r.joined ++ [(table, e)] } =
      (r.legs.1, r.legs.2 ++ [(table, columnsOf r.base e)]) := by simp [legs]
  have hbase' : q.base = base := by rw [← base_of_legs h, hbase]
  unfold join
  rw [names_of_legs h]
  split
  · exact congrArg Except.ok h
  · rename_i hnew
    have htable : table ≠ base := by
      rintro rfl
      simp [names, hbase'] at hnew
    have hfound := hcolumns table htable
    rw [← map_find?_confirmedOf, ← map_find?_confirmedOf] at hfound
    rw [hbase, hbase']
    cases he : (confirmedOf edges).find? fun e => e.connects base table with
    | none =>
      rw [he, Option.map_none, eq_comm, Option.map_eq_none_iff] at hfound
      rw [hfound]
    | some e =>
      rw [he, Option.map_some, eq_comm, Option.map_eq_some_iff] at hfound
      obtain ⟨e', he', hsame⟩ := hfound
      rw [he']
      have hp := hlegs p e
      have hq := hlegs q e'
      rw [hbase] at hp
      rw [hbase', hsame, ← h] at hq
      exact congrArg Except.ok (hp.trans hq.symm)

/-- The legs of a path, or the table that it misses, follow from the join columns. -/
theorem resolve_legs (hcolumns : ∀ table ≠ base, joinColumns? base edges table =
      joinColumns? base edges' table) (tables : List String) :
    (resolve base tables edges).map legs = (resolve base tables edges').map legs := by
  have hfold : ∀ (tables : List String) (p q : JoinPath), p.base = base → p.legs = q.legs →
      (tables.foldlM (join (confirmedOf edges)) p).map legs =
        (tables.foldlM (join (confirmedOf edges')) q).map legs := by
    intro tables
    induction tables with
    | nil => exact fun p q _ h => congrArg Except.ok h
    | cons table rest ih =>
      intro p q hbase h
      rw [List.foldlM_cons, List.foldlM_cons, Result.map_bind, Result.map_bind]
      refine Result.bind_eq_of_map_eq (join_legs hcolumns hbase h table) fun p' q' hp' h' => ?_
      refine ih p' q' ?_ h'
      obtain rfl | ⟨e, -, rfl⟩ := join_eq_ok hp' <;> exact hbase
  exact hfold tables _ _ rfl rfl

end JoinPath

end ChartBoard.Relationship
