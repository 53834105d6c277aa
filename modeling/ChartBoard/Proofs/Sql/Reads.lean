import ChartBoard.Sql.Query

/-!
# What queries read

A query reads the rows of its tables that meet its conditions.  Its columns are written with the
alias of the table that they belong to, and the tables of the query say which aliases there are.

* `Query.tables` and `Query.conditions` are what a query reads, `Query.narrowed` adds conditions
  to it.
* `From.positions` are the positions whose aliases the tables declare.
* `Within` says that the aliases in some pieces are those of given positions; there is a lemma for
  each kind of expression, condition and query.
-/

namespace ChartBoard.Sql

/-! ## Tables and conditions -/

namespace Query

/-- The tables that a query reads. -/
def tables : Query → From
  | table _ tables _ _ => tables
  | total _ tables _ => tables
  | windows _ _ tables _ _ _ _ => tables
  | values _ name _ _ => ⟨name, []⟩

/-- The conditions on the rows that a query reads. -/
def conditions : Query → List Condition
  | table _ _ conditions _ => conditions
  | total _ _ conditions => conditions
  | windows _ _ _ conditions _ _ _ => conditions
  | values _ _ conditions _ => conditions

/-- The query under further conditions. -/
def narrowed (further : List Condition) : Query → Query
  | table items tables conditions groups => table items tables (conditions ++ further) groups
  | total value tables conditions => total value tables (conditions ++ further)
  | windows time value tables conditions measure length unit =>
    windows time value tables (conditions ++ further) measure length unit
  | values column name conditions limit => values column name (conditions ++ further) limit

@[simp] theorem tables_narrowed (q : Query) (further : List Condition) :
    (q.narrowed further).tables = q.tables := by
  cases q <;> rfl

@[simp] theorem conditions_narrowed (q : Query) (further : List Condition) :
    (q.narrowed further).conditions = q.conditions ++ further := by
  cases q <;> rfl

end Query

/-! ## Aliases -/

/-- The positions whose aliases the tables of a statement declare. -/
def From.positions (f : From) : List Nat := 0 :: f.joins.map Join.source

/-- True of pieces in which no alias stands but those of some positions. -/
def Within (allowed : List Nat) (ps : List Piece) : Prop := ∀ i, Piece.source i ∈ ps → i ∈ allowed

variable {allowed : List Nat} {ps qs : List Piece}

@[simp] theorem within_nil : Within allowed [] := nofun

@[simp] theorem within_cons {p : Piece} :
    Within allowed (p :: ps) ↔ (∀ i, p = .source i → i ∈ allowed) ∧ Within allowed ps := by
  simp only [Within, List.mem_cons, or_imp, forall_and, eq_comm]

@[simp] theorem within_append :
    Within allowed (ps ++ qs) ↔ Within allowed ps ∧ Within allowed qs := by
  simp only [Within, List.mem_append, or_imp, forall_and]

theorem within_separated {code : String} {l : List (List Piece)}
    (h : ∀ ps ∈ l, Within allowed ps) : Within allowed (separated code l) := by
  induction l with
  | nil => exact within_nil
  | cons ps rest ih =>
    obtain ⟨hps, hrest⟩ := List.forall_mem_cons.mp h
    cases rest with
    | nil => exact hps
    | cons qs rest => simpa [separated] using ⟨hps, ih hrest⟩

/-! ## Expressions -/

@[simp] theorem Expr.within_column {i : Nat} {name : String} :
    Within allowed (Expr.column i name).pieces ↔ i ∈ allowed := by
  simp [pieces]

@[simp] theorem Expr.within_numeric {e : Expr} :
    Within allowed e.numeric.pieces ↔ Within allowed e.pieces := by
  simp [numeric, undressed, removedFromAmounts, pieces]

@[simp] theorem Expr.within_moment {e : Expr} :
    Within allowed e.moment.pieces ↔ Within allowed e.pieces := by
  simp [moment, pieces]

namespace Aggregate

theorem within_input {e : Expr} (h : Within allowed e.pieces) (a : Aggregate) :
    Within allowed (a.input e).pieces := by
  cases a with
  | countRows => simp [input, Expr.pieces]
  | count | countDistinct => exact h
  | rowLevel | function => simpa [input] using h

theorem within_outer {e : Expr} (h : Within allowed e.pieces) (a : Aggregate) :
    Within allowed (a.outer e).pieces := by
  cases a <;> simp [outer, Expr.pieces, h]

theorem within_column {e : Expr} (h : Within allowed e.pieces) (a : Aggregate) :
    Within allowed (a.column e).pieces :=
  within_outer (within_input h a) a

end Aggregate

/-! ## Conditions -/

theorem within_inList {e : List Piece} (h : Within allowed e) (values : List Literal) :
    Within allowed (inList e values) := by
  have hvalues : Within allowed (separated ", " (values.map fun v => [v.piece])) := by
    refine within_separated fun ps hps => ?_
    obtain ⟨v, -, rfl⟩ := List.mem_map.mp hps
    cases v <;> simp [Literal.piece]
  simp [inList, h, hvalues]

/-- The expression that a condition is about, if it is about one. -/
def Condition.subject? : Condition → Option Expr
  | never => none
  | oneOf e _ | labelOneOf e _ | known e => some e

theorem Condition.within_pieces {c : Condition}
    (h : ∀ e ∈ c.subject?, Within allowed e.pieces) : Within allowed c.pieces := by
  cases c with
  | never => simp [pieces]
  | oneOf e values => exact within_inList (h e rfl) values
  | labelOneOf e labels =>
    have hchecks : Within allowed (separated " OR " (labelFormats.map fun format =>
        inList (e.moment.formatted format).pieces (labels.map .text))) := by
      refine within_separated fun ps hps => ?_
      obtain ⟨format, -, rfl⟩ := List.mem_map.mp hps
      refine within_inList ?_ _
      simpa [Expr.pieces] using h e rfl
    simpa [pieces] using hchecks
  | known e => simpa [pieces] using h e rfl

theorem within_whereAll {conditions : List Condition}
    (h : ∀ c ∈ conditions, Within allowed c.pieces) : Within allowed (whereAll conditions) := by
  have hall : Within allowed (separated " AND " (conditions.map Condition.pieces)) := by
    refine within_separated fun ps hps => ?_
    obtain ⟨c, hc, rfl⟩ := List.mem_map.mp hps
    exact h c hc
  unfold whereAll
  split
  · exact within_nil
  · simpa using hall

/-! ## Queries -/

/-- The tables of a statement are joined on columns of tables that they declare. -/
theorem From.within_positions (f : From) : Within f.positions f.pieces := by
  refine within_separated fun ps hps => ?_
  rcases List.mem_cons.mp hps with rfl | hps
  · simp [positions]
  · obtain ⟨j, hj, rfl⟩ := List.mem_map.mp hps
    have hsource : j.source ∈ f.positions := List.mem_cons_of_mem _ (List.mem_map_of_mem hj)
    have hbase : 0 ∈ f.positions := List.mem_cons_self
    simp [Join.pieces, hsource, hbase]

theorem within_windowTotal {measure : Expr} (h : Within allowed measure.pieces) (w : Window)
    (name : String) : Within allowed (windowTotal measure w name) := by
  simp [windowTotal, Window.pieces, h]

namespace Query

variable {tables : From} {conditions : List Condition}
  (hconditions : ∀ c ∈ conditions, Within tables.positions c.pieces)

include hconditions

theorem within_table {items : List Item} {groups : Option (List Expr × Expr)}
    (hitems : ∀ i ∈ items, Within tables.positions i.expr.pieces)
    (hgroups : ∀ p ∈ groups, (∀ e ∈ p.1, Within tables.positions e.pieces) ∧
      Within tables.positions p.2.pieces) :
    Within tables.positions (table items tables conditions groups).pieces := by
  have hlist : Within tables.positions (separated ", " (items.map Item.pieces)) := by
    refine within_separated fun ps hps => ?_
    obtain ⟨i, hi, rfl⟩ := List.mem_map.mp hps
    simpa [Item.pieces] using hitems i hi
  have hwhere := within_whereAll hconditions
  have htables := tables.within_positions
  cases groups with
  | none => simp [pieces, hlist, htables, hwhere]
  | some p =>
    obtain ⟨hby, horder⟩ := hgroups p rfl
    have hkeys : Within tables.positions (separated ", " (p.1.map Expr.pieces)) := by
      refine within_separated fun ps hps => ?_
      obtain ⟨e, he, rfl⟩ := List.mem_map.mp hps
      exact hby e he
    simp [pieces, hlist, htables, hwhere, hkeys, horder]

theorem within_total {value : Expr} (hvalue : Within tables.positions value.pieces) :
    Within tables.positions (total value tables conditions).pieces := by
  simp [pieces, hvalue, tables.within_positions, within_whereAll hconditions]

theorem within_windows {time value measure : Expr}
    (htime : Within tables.positions time.pieces) (hvalue : Within tables.positions value.pieces)
    (hmeasure : Within tables.positions measure.pieces) (length : Nat) (unit : String) :
    Within tables.positions (windows time value tables conditions measure length unit).pieces := by
  have hends : Within tables.positions (separated ", "
      ([WindowEnd.currentStart, .previousStart, .previousEnd].map fun e =>
        e.pieces length unit)) := by
    refine within_separated fun ps hps => ?_
    obtain ⟨e, -, rfl⟩ := List.mem_map.mp hps
    simp [WindowEnd.pieces]
  simp only [pieces, List.cons_append, List.append_assoc, within_cons, within_append, reduceCtorEq,
    false_imp_iff, implies_true, htime, hvalue, tables.within_positions,
    within_whereAll hconditions, hends, within_windowTotal hmeasure, and_self]

end Query

end ChartBoard.Sql
