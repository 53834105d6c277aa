import ChartBoard.Proofs.Datum.Selection
import ChartBoard.Proofs.Relationship.Bindings
import ChartBoard.Proofs.Relationship.JoinPath

/-!
# Finding the joins

The tables of a statement form a star around its base table.  A table that is listed is joined when
a confirmed edge runs directly between it and the base table, whichever end of the edge comes first
and whatever other edges there are; a list with a table that has no such edge has no joins at all.

* `Neighbour` says that a table has such an edge, `firstUnreached?` finds the first listed table
  that lacks one.  `mem_relatedTables` says that the related tables are the neighbours.
* `JoinPath.IsStar` is what joining a list of tables keeps, `JoinPath.join_of_isStar` the step lemma
  and `JoinPath.resolve_eq` the run lemma.
* `JoinPath.Spans` describes the joins as they stand in a statement, by the tables alone.
* `JoinPath.resolve_spans` is the result.
-/

namespace ChartBoard

/-! ## Joined tables as text -/

namespace Sql

/-- A join as it stands in a statement: the column of the base table is the one at position zero. -/
def Join.text (j : Join) : String :=
  s!"JOIN {quotedName j.table} {sourceAlias j.source} ON " ++
    s!"{(Expr.column 0 j.baseColumn).text} = {(Expr.column j.source j.column).text}"

theorem render_separated (code : String) (ps : List Piece) (rest : List (List Piece)) :
    render (separated code (ps :: rest)) =
      render ps ++ String.join (rest.map fun qs => code ++ render qs) := by
  induction rest generalizing ps with
  | nil => simp [separated]
  | cons qs rest ih =>
    have hcode : render (separated code (ps :: qs :: rest)) =
        render ps ++ (code ++ render (separated code (qs :: rest))) := by
      simp [separated, render, Piece.render]
    rw [hcode, ih, List.map_cons, String.join_cons, String.append_assoc]

theorem Join.render_pieces (j : Join) : render j.pieces = j.text := by
  simp only [pieces, text, Expr.text, Expr.pieces, toString, render, Piece.render, List.cons_append,
    List.nil_append, List.map_cons, List.map_nil, String.join_cons, String.join_nil,
    String.append_empty, String.append_assoc]

theorem From.text_eq (f : From) : f.text =
    quotedName f.base ++ " " ++ sourceAlias 0 ++
      String.join (f.joins.map fun j => " " ++ j.text) := by
  have hbase : render [.name f.base, .code " ", .source 0] =
      quotedName f.base ++ " " ++ sourceAlias 0 := by
    simp [render, Piece.render, String.append_assoc]
  simp only [text, pieces, render_separated, hbase, List.map_map, Function.comp_def,
    Join.render_pieces]

end Sql

namespace Relationship

/-! ## Neighbours of the base table -/

/-- The tables that an edge joins, in no order. -/
def Edge.tables (e : Edge) : Sym2 String := s(e.left.table, e.right.table)

variable {base table : String} {edges : List Edge} {tables : List String}

/-- True of a table that a confirmed edge joins directly to the base table. -/
def Neighbour (base : String) (edges : List Edge) (table : String) : Prop :=
  ∃ e ∈ edges, e.isConfirmed = true ∧ e.tables = s(base, table)

instance : Decidable (Neighbour base edges table) :=
  inferInstanceAs (Decidable (∃ e ∈ edges, e.isConfirmed = true ∧ e.tables = s(base, table)))

/-- True of a table that needs no join or can be joined. -/
def Reached (base : String) (edges : List Edge) (table : String) : Prop :=
  table ≠ "" → table ≠ base → Neighbour base edges table

instance : Decidable (Reached base edges table) :=
  inferInstanceAs (Decidable (table ≠ "" → table ≠ base → Neighbour base edges table))

/-- The first table of a list that would have to be joined and cannot be. -/
def firstUnreached? (base : String) (edges : List Edge) (tables : List String) : Option String :=
  tables.find? fun table => ¬ Reached base edges table

/-- The tables of a list that have to be joined to the base table, each where it comes first. -/
def others (base : String) (tables : List String) : List String :=
  distinctTexts (tables.filter fun table => table ≠ "" ∧ table ≠ base)

theorem Edge.connects_iff {e : Edge} :
    e.connects base table = true ↔ e.tables = s(base, table) := by
  simp [connects, Edge.tables]

theorem find?_connects_isSome :
    ((confirmedOf edges).find? fun e => e.connects base table).isSome ↔
      Neighbour base edges table := by
  simp only [List.find?_isSome, confirmedOf, List.mem_filter, Edge.connects_iff, Neighbour,
    and_assoc]

theorem reached_base : Reached base edges base := fun _ h => absurd rfl h

theorem firstUnreached?_eq_none :
    firstUnreached? base edges tables = none ↔ ∀ table ∈ tables, Reached base edges table := by
  simp [firstUnreached?]

theorem not_reached_of_firstUnreached? (h : firstUnreached? base edges tables = some table) :
    table ∈ tables ∧ ¬ Reached base edges table := by
  refine ⟨List.mem_of_find?_eq_some h, ?_⟩
  simpa using List.find?_some h

theorem mem_others : table ∈ others base tables ↔ table ∈ tables ∧ table ≠ "" ∧ table ≠ base := by
  simp [others, mem_distinctTexts]

theorem nodup_base_others : (base :: others base tables).Nodup :=
  List.nodup_cons.mpr ⟨fun h => (mem_others.mp h).2.2 rfl, nodup_distinctTexts _⟩

/-! ## Related tables -/

theorem mem_distinctFromBase {seen rest : List String} :
    table ∈ relatedTables.distinctFromBase seen rest ↔ table ∈ seen ∨ table ∈ rest := by
  induction rest generalizing seen with
  | nil => simp [relatedTables.distinctFromBase]
  | cons t rest ih =>
    rw [relatedTables.distinctFromBase, ih, List.mem_cons]
    split
    · rename_i ht
      have hknown : table = t → table ∈ seen := fun h => h ▸ ht
      tauto
    · rw [List.mem_append, List.mem_singleton]
      tauto

theorem otherEnd?_eq_some {e : Edge} (hne : table ≠ base) :
    otherEnd? base e = some table ↔ e.tables = s(base, table) := by
  unfold otherEnd? Edge.tables
  rw [Sym2.eq_iff]
  split
  · rename_i hleft
    rw [beq_iff_eq] at hleft
    simp [hleft, hne.symm]
  · rename_i hleft
    rw [beq_iff_eq] at hleft
    simp [hleft, and_comm]

/-- The related tables are the base table and its neighbours. -/
theorem mem_relatedTables :
    table ∈ relatedTables base edges ↔ table = base ∨ Neighbour base edges table := by
  rw [relatedTables, mem_distinctFromBase, List.mem_singleton]
  by_cases hbase : table = base
  · simp [hbase]
  · simp only [hbase, false_or, List.mem_filterMap, confirmedOf, List.mem_filter, and_assoc,
      otherEnd?_eq_some hbase, Neighbour]

namespace JoinPath

open Sql

/-! ## Joining one table after the other -/

variable {p : JoinPath}

/-- A path that joins a list of tables to its base table, each by an edge to it. -/
structure IsStar (base : String) (tables : List String) (edges : List Edge) (p : JoinPath) :
    Prop where
  base_eq : p.base = base
  joined_eq : p.joined.map (·.1) = others base tables
  joins : ∀ j ∈ p.joined, j.2 ∈ edges ∧ j.2.isConfirmed = true ∧ j.2.tables = s(base, j.1)

theorem IsStar.names (h : p.IsStar base tables edges) : p.names = base :: others base tables := by
  rw [JoinPath.names, h.base_eq, h.joined_eq]

/-- A table that needs no join is passed over. -/
theorem others_concat_of_mem (h : table = "" ∨ table ∈ base :: others base tables) :
    others base (tables ++ [table]) = others base tables := by
  unfold others
  rw [List.filter_append]
  by_cases hneeded : table ≠ "" ∧ table ≠ base
  · have hmem : table ∈ others base tables := by
      rcases h with h | h
      · exact absurd h hneeded.1
      · exact (List.mem_cons.mp h).resolve_left hneeded.2
    rw [List.filter_cons_of_pos (by simpa using hneeded), List.filter_nil, distinctTexts_concat,
      if_pos (mem_distinctTexts.mp hmem)]
  · rw [List.filter_cons_of_neg (by simpa using hneeded), List.filter_nil, List.append_nil]

theorem others_concat_of_not_mem (hne : table ≠ "") (h : table ∉ base :: others base tables) :
    others base (tables ++ [table]) = others base tables ++ [table] := by
  obtain ⟨hbase, hnew⟩ := not_or.mp (mt List.mem_cons.mpr h)
  unfold others at hnew ⊢
  rw [mem_distinctTexts] at hnew
  rw [List.filter_append, List.filter_cons_of_pos (by simp [hne, hbase]), List.filter_nil,
    distinctTexts_concat, if_neg hnew]

/-- One more table is joined if it is reached, and is the reason that there are no joins if not. -/
theorem join_of_isStar (h : p.IsStar base tables edges) (table : String) :
    (Reached base edges table → ∃ q, p.join (confirmedOf edges) table = .ok q ∧
      q.IsStar base (tables ++ [table]) edges) ∧
    (¬ Reached base edges table →
      p.join (confirmedOf edges) table = .error (.missingRelationship base table)) := by
  unfold join
  rw [h.names, h.base_eq]
  by_cases hthere : table = "" ∨ table ∈ base :: others base tables
  · rw [if_pos (by simpa using hthere)]
    refine ⟨fun _ => ⟨p, rfl, h.base_eq, ?_, h.joins⟩, fun hnot => ?_⟩
    · rw [others_concat_of_mem hthere, h.joined_eq]
    · -- a table that is there already was reached when it was joined
      refine absurd (fun hne hbase => ?_) hnot
      have hmem : table ∈ p.joined.map (·.1) := by
        rw [h.joined_eq]
        exact (List.mem_cons.mp (hthere.resolve_left hne)).resolve_left hbase
      obtain ⟨j, hj, rfl⟩ := List.mem_map.mp hmem
      exact ⟨j.2, h.joins j hj⟩
  · rw [if_neg (by simpa using hthere)]
    obtain ⟨hne, hnew⟩ := not_or.mp hthere
    have hbase : table ≠ base := fun heq => hnew (heq ▸ List.mem_cons_self)
    have hreached : Reached base edges table ↔ Neighbour base edges table :=
      ⟨fun h => h hne hbase, fun h _ _ => h⟩
    rw [hreached, ← find?_connects_isSome]
    cases hfind : (confirmedOf edges).find? fun e => e.connects base table with
    | none => simp
    | some e =>
      obtain ⟨hmem, hconfirmed⟩ := List.mem_filter.mp (List.mem_of_find?_eq_some hfind)
      have hconnects : e.connects base table = true :=
        List.find?_some (p := fun e : Edge => e.connects base table) hfind
      refine ⟨fun _ => ⟨_, rfl, rfl, ?_, fun j hj => ?_⟩, fun hnot => absurd rfl hnot⟩
      · rw [List.map_append, h.joined_eq, others_concat_of_not_mem hne hnew]
        rfl
      · rcases List.mem_append.mp hj with hj | hj
        · exact h.joins j hj
        · obtain rfl := List.mem_singleton.mp hj
          exact ⟨hmem, hconfirmed, Edge.connects_iff.mp hconnects⟩

theorem resolve_concat (base : String) (tables : List String) (edges : List Edge)
    (table : String) : resolve base (tables ++ [table]) edges =
      resolve base tables edges >>= fun p => p.join (confirmedOf edges) table := by
  simp only [resolve, List.foldlM_append, List.foldlM_cons, List.foldlM_nil, bind_pure]

/-- The joins of a list of tables are found if all are reached; otherwise the first that is not is
named. -/
theorem resolve_eq (base : String) (tables : List String) (edges : List Edge) :
    match firstUnreached? base edges tables with
    | none => ∃ p, resolve base tables edges = .ok p ∧ p.IsStar base tables edges
    | some table => resolve base tables edges = .error (.missingRelationship base table) := by
  induction tables using List.reverseRecOn with
  | nil => exact ⟨⟨base, []⟩, rfl, rfl, rfl, nofun⟩
  | append_singleton tables table ih =>
    have hfirst : firstUnreached? base edges (tables ++ [table]) =
        (firstUnreached? base edges tables).or (firstUnreached? base edges [table]) :=
      List.find?_append
    rw [hfirst, resolve_concat]
    cases hbefore : firstUnreached? base edges tables with
    | some first =>
      rw [hbefore] at ih
      simp only at ih
      rw [ih]
      rfl
    | none =>
      rw [hbefore] at ih
      obtain ⟨p, hp, hstar⟩ := ih
      obtain ⟨hjoin, hfail⟩ := join_of_isStar hstar table
      rw [hp]
      by_cases hreached : Reached base edges table
      · have hlast : firstUnreached? base edges [table] = none :=
          firstUnreached?_eq_none.mpr (by simpa using hreached)
        rw [hlast]
        exact hjoin hreached
      · have hlast : firstUnreached? base edges [table] = some table := by
          simp [firstUnreached?, hreached]
        rw [hlast]
        exact hfail hreached

theorem isStar_of_resolve (h : resolve base tables edges = .ok p) : p.IsStar base tables edges := by
  have hrun := resolve_eq base tables edges
  split at hrun
  · obtain ⟨q, hq, hstar⟩ := hrun
    obtain rfl := Except.ok.inj (h.symm.trans hq)
    exact hstar
  · cases h.symm.trans hrun

theorem exists_resolve_iff : (∃ p, resolve base tables edges = .ok p) ↔
    ∀ table ∈ tables, Reached base edges table := by
  have hrun := resolve_eq base tables edges
  rw [← firstUnreached?_eq_none]
  cases hfirst : firstUnreached? base edges tables with
  | none =>
    rw [hfirst] at hrun
    obtain ⟨p, hp, -⟩ := hrun
    exact iff_of_true ⟨p, hp⟩ rfl
  | some table =>
    rw [hfirst] at hrun
    simp only at hrun
    exact iff_of_false (by simp [hrun]) nofun

/-! ## The joins in a statement -/

/-- True of a join of a table, under the alias of a position, on the columns of a confirmed edge
between it and the base table, the column of the base table first. -/
structure Joins (base : String) (edges : List Edge) (table : String) (position : Nat)
    (j : Sql.Join) : Prop where
  table_eq : j.table = table
  source_eq : j.source = position
  edge : ∃ e ∈ edges, e.isConfirmed = true ∧
    e.ends = s(⟨base, j.baseColumn⟩, ⟨table, j.column⟩)

/-- The base table at position zero and the other tables of a list after it, each joined once. -/
structure Spans (base : String) (tables : List String) (edges : List Edge) (p : JoinPath) :
    Prop where
  distinct : (base :: others base tables).Nodup
  aliases_eq : p.aliases = (base :: others base tables).zipIdx.map fun q => (q.1, sourceAlias q.2)
  base_eq : p.tables.base = base
  joins : List.Forall₂ (fun q j => Joins base edges q.1 q.2 j) ((others base tables).zipIdx 1)
    p.tables.joins
  text_eq : p.tables.text = quotedName base ++ " " ++ sourceAlias 0 ++
    String.join (p.tables.joins.map fun j => " " ++ j.text)

/-- The columns of an edge are those of its ends, that of the base table first. -/
theorem ends_columnsOf {e : Edge} (h : e.tables = s(base, table)) :
    e.ends = s(⟨base, (columnsOf base e).1⟩, ⟨table, (columnsOf base e).2⟩) := by
  obtain ⟨⟨leftTable, leftColumn⟩, ⟨rightTable, rightColumn⟩, status, cardinality⟩ := e
  simp only [Edge.tables, Edge.ends, columnsOf] at h ⊢
  by_cases hleft : leftTable = base
  · subst hleft
    obtain rfl : rightTable = table := by
      rcases Sym2.eq_iff.mp h with ⟨-, h⟩ | ⟨h, h'⟩
      · exact h
      · exact h'.trans h
    simp
  · obtain ⟨rfl, rfl⟩ : leftTable = table ∧ rightTable = base :=
      (Sym2.eq_iff.mp h).resolve_left fun h => hleft h.1
    simp only [beq_iff_eq, hleft, if_false]
    exact Sym2.eq_swap

theorem IsStar.spans (h : p.IsStar base tables edges) : p.Spans base tables edges := by
  have hbase : p.tables.base = base := h.base_eq
  refine ⟨nodup_base_others, ?_, hbase, ?_, ?_⟩
  · rw [aliases, h.names]
  · have hpositions : (others base tables).zipIdx 1 =
        p.joined.zipIdx.map fun q => (q.1.1, q.2 + 1) := by
      rw [← h.joined_eq, List.zipIdx_succ, List.zipIdx_map, List.map_map]
      rfl
    rw [hpositions, JoinPath.tables, List.forall₂_map_left_iff, List.forall₂_map_right_iff,
      List.forall₂_same]
    intro q hq
    obtain ⟨hedge, hconfirmed, htables⟩ := h.joins q.1 (List.fst_mem_of_mem_zipIdx hq)
    rw [h.base_eq]
    exact ⟨rfl, rfl, q.1.2, hedge, hconfirmed, ends_columnsOf htables⟩
  · rw [From.text_eq, hbase]

/-- The joins of a list of tables are found exactly if every table that is not empty and not the
base table is a neighbour of the base table.  Otherwise the first that is not is named.  Those that
are found span the listed tables, and a single table has them exactly if it is a related one. -/
theorem resolve_spans (base : String) (tables : List String) (edges : List Edge) :
    ((∃ p, resolve base tables edges = .ok p) ↔
      ∀ table ∈ tables, table ≠ "" → table ≠ base → Neighbour base edges table) ∧
    (∀ fault, resolve base tables edges = .error fault ↔
      ∃ table, firstUnreached? base edges tables = some table ∧
        fault = .missingRelationship base table) ∧
    (∀ p, resolve base tables edges = .ok p → p.Spans base tables edges) ∧
    ∀ table ≠ "", (∃ p, resolve base [table] edges = .ok p) ↔ table ∈ relatedTables base edges := by
  refine ⟨exists_resolve_iff, fun fault => ?_, fun p hp => (isStar_of_resolve hp).spans,
    fun table hne => ?_⟩
  · have hrun := resolve_eq base tables edges
    cases hfirst : firstUnreached? base edges tables with
    | none =>
      rw [hfirst] at hrun
      obtain ⟨p, hp, -⟩ := hrun
      simp [hp]
    | some table =>
      rw [hfirst] at hrun
      simp only at hrun
      simp [hrun, eq_comm]
  · rw [exists_resolve_iff, mem_relatedTables, List.forall_mem_singleton]
    constructor
    · intro h
      by_cases hbase : table = base
      · exact Or.inl hbase
      · exact Or.inr (h hne hbase)
    · rintro (rfl | h)
      · exact reached_base
      · exact fun _ _ => h

/-- Orders with their customers and the cities these live in.  The edge to the customers is stored
from the other side, twice, and once more as a suggestion. -/
def starEdges : List Edge :=
  [⟨⟨"orders", "id"⟩, ⟨"customers", "id"⟩, .text suggestedStatus, .null⟩,
   ⟨⟨"orders", "parent"⟩, ⟨"orders", "id"⟩, .text confirmedStatus, .null⟩,
   ⟨⟨"customers", "id"⟩, ⟨"orders", "customer"⟩, .text confirmedStatus, .null⟩,
   ⟨⟨"orders", "customer"⟩, ⟨"customers", "id"⟩, .text confirmedStatus, .null⟩,
   ⟨⟨"customers", "city"⟩, ⟨"cities", "id"⟩, .text confirmedStatus, .null⟩]

/-- Customers are joined to orders however often they are listed; cities, two edges away, are
not. -/
theorem resolve_spans_customers :
    let tables := ["customers", "", "orders", "customers"]
    (∃ p, resolve "orders" tables starEdges = .ok p ∧ p.Spans "orders" tables starEdges) ∧
      resolve "orders" (tables ++ ["cities"]) starEdges =
        .error (.missingRelationship "orders" "cities") ∧
      "customers" ∈ relatedTables "orders" starEdges := by
  intro tables
  obtain ⟨hfound, -, hspans, hrelated⟩ := resolve_spans "orders" tables starEdges
  obtain ⟨-, hmissing, -⟩ := resolve_spans "orders" (tables ++ ["cities"]) starEdges
  obtain ⟨p, hp⟩ := hfound.mpr (by decide)
  refine ⟨⟨p, hp, hspans p hp⟩, (hmissing _).mpr ⟨"cities", by decide, rfl⟩, ?_⟩
  obtain ⟨hsingle, -⟩ := resolve_spans "orders" ["customers"] starEdges
  exact (hrelated "customers" (by decide)).mp (hsingle.mpr (by decide))

end JoinPath

end Relationship

end ChartBoard
