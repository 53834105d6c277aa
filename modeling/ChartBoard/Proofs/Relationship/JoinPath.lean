import ChartBoard.Proofs.Result
import ChartBoard.Proofs.Sql.Given
import ChartBoard.Relationship.JoinPath

/-!
# Tables of join paths

What a join path is made of when it has been found.

* `JoinPath.resolve_eq_ok` says that it starts at the base table and joins listed tables by given
  edges.
* `JoinPath.tables_uses` says that the tables of its statement are those, joined on columns of
  these edges.
* `JoinPath.mem_names_of_column` says that a column belongs to one of the tables, and
  `JoinPath.ne_empty_of_mem_names` that none of these is empty.
* `JoinPath.resolve_of_forall_eq` and `JoinPath.column_eq_zero_iff` are about the base table alone.
-/

namespace ChartBoard.Relationship.JoinPath

open Result Sql

variable {base : String} {edges : List Edge} {tables : List String} {p : JoinPath}

theorem join_eq_ok {confirmed : List Edge} {table : String} {q : JoinPath}
    (h : p.join confirmed table = .ok q) :
    q = p ∨ ∃ e ∈ confirmed, q = { p with joined := p.joined ++ [(table, e)] } := by
  unfold join at h
  split at h
  · exact Or.inl (Except.ok.inj h).symm
  · split at h
    · rename_i e hfind
      exact Or.inr ⟨e, List.mem_of_find?_eq_some hfind, (Except.ok.inj h).symm⟩
    · cases h

/-- A path joins tables of the list by edges that are confirmed. -/
theorem resolve_eq_ok (h : resolve base tables edges = .ok p) :
    p.base = base ∧ ∀ j ∈ p.joined, j.1 ∈ tables ∧ j.2 ∈ edges := by
  refine foldlM_keeps (P := fun q : JoinPath =>
    q.base = base ∧ ∀ j ∈ q.joined, j.1 ∈ tables ∧ j.2 ∈ edges) ?_ ⟨rfl, by simp⟩ h
  intro q q' table htable hq hjoin
  obtain rfl | ⟨e, he, rfl⟩ := join_eq_ok hjoin
  · exact hq
  · refine ⟨hq.1, fun j hj => ?_⟩
    rcases List.mem_append.mp hj with hj | hj
    · exact hq.2 j hj
    · obtain rfl := List.mem_singleton.mp hj
      exact ⟨htable, (List.mem_filter.mp he).1⟩

theorem ne_empty_of_mem_names (hbase : base ≠ "") (h : resolve base tables edges = .ok p) :
    ∀ table ∈ p.names, table ≠ "" := by
  refine foldlM_keeps (P := fun q : JoinPath => ∀ table ∈ q.names, table ≠ "") ?_ ?_ h
  · intro q q' table _ hq hjoin
    unfold join at hjoin
    split at hjoin
    · rwa [← Except.ok.inj hjoin]
    · rename_i hnew
      split at hjoin
      · rename_i e _
        obtain rfl := Except.ok.inj hjoin
        have hne : table ≠ "" := fun hempty => hnew (by simp [hempty])
        have hnames : (JoinPath.mk q.base (q.joined ++ [(table, e)])).names =
            q.names ++ [table] := by simp [names]
        rw [hnames, List.forall_mem_append]
        exact ⟨hq, by simpa using hne⟩
      · cases hjoin
  · intro table htable
    obtain rfl := List.mem_singleton.mp htable
    exact hbase

/-- Where nothing but the base table is listed there is nothing to join. -/
theorem resolve_of_forall_eq (h : ∀ table ∈ tables, table = base) :
    resolve base tables edges = .ok ⟨base, []⟩ := by
  unfold resolve
  induction tables with
  | nil => rfl
  | cons table rest ih =>
    obtain ⟨rfl, hrest⟩ := List.forall_mem_cons.mp h
    have hjoin : join (confirmedOf edges) ⟨table, []⟩ table = .ok ⟨table, []⟩ := by
      simp [join, names]
    rw [List.foldlM_cons, hjoin]
    exact ih hrest

/-- The columns at position zero are those of the base table. -/
theorem column_eq_zero_iff {reference name : String} :
    p.column reference = .ok (.column 0 name) ↔
      Field.parse p.base reference = ⟨p.base, name⟩ := by
  have hposition (table : String) : p.position? table = some 0 ↔ p.base = table := by
    simp [position?, names, List.findIdx?_cons]
  unfold column
  generalize Field.parse p.base reference = f
  obtain ⟨table, column⟩ := f
  constructor
  · intro h
    simp only at h
    split at h
    · rename_i i hi
      obtain ⟨rfl, rfl⟩ := Expr.column.inj (Except.ok.inj h)
      rw [(hposition table).mp hi]
    · cases h
  · intro h
    obtain ⟨rfl, rfl⟩ := Field.mk.inj h
    simp only [(hposition p.base).mpr rfl]

theorem mem_names_of_column {reference : String} {e : Expr} (h : p.column reference = .ok e) :
    (Field.parse p.base reference).table ∈ p.names := by
  unfold column at h
  extract_lets f at h
  split at h
  · rename_i i hposition
    obtain ⟨hlt, heq, -⟩ := List.findIdx?_eq_some_iff_getElem.mp hposition
    rw [← beq_iff_eq.mp heq]
    exact List.getElem_mem hlt
  · cases h

theorem column_eq_ok {reference : String} {e : Expr} (h : p.column reference = .ok e) :
    ∃ i, e = .column i (Field.parse p.base reference).column := by
  unfold column at h
  simp only at h
  split at h
  · rename_i i _
    exact ⟨i, (Except.ok.inj h).symm⟩
  · cases h

/-- The tables of a statement with a path and the columns they are joined on are given. -/
theorem tables_uses {g : Given} (hbase : p.base ∈ g.tables)
    (hjoined : ∀ j ∈ p.joined, j.1 ∈ g.tables ∧ j.2.left.column ∈ g.columns ∧
      j.2.right.column ∈ g.columns) : p.tables.Uses g := by
  refine ⟨hbase, fun j hj => ?_⟩
  obtain ⟨⟨⟨table, e⟩, i⟩, hmem, rfl⟩ := List.mem_map.mp hj
  obtain ⟨htable, hleft, hright⟩ := hjoined (table, e) (List.fst_mem_of_mem_zipIdx hmem)
  simp only [columnsOf]
  split
  · exact ⟨htable, hleft, hright⟩
  · exact ⟨htable, hright, hleft⟩

end ChartBoard.Relationship.JoinPath
