import ChartBoard.Kpi.Constraints
import ChartBoard.Proofs.Datum.Selection
import ChartBoard.Proofs.Keyed
import ChartBoard.Proofs.Relationship.Field
import ChartBoard.Proofs.Relationship.JoinPath
import ChartBoard.Proofs.Sql.Reads
import ChartBoard.Proofs.Widget.Compiled

/-!
# Key figures under the filters on their table

A key figure of columns of its base table is asked for anew under the filters on this table: each of
them is one more condition on its column, those on other tables change nothing, and no table is
joined.  The constraints name their columns by field references, so all this holds exactly as long
as these are read back as the columns that are meant.

* `Widget.Source.IsPlain` is true of the key figures this is about.
* `constraints?_of_isPlain` says which constraints filters mean, `compile_narrowed` what becomes of
  constraints that join no table.
* `AskedUnder` says that a key figure is asked for under its own filters alone, `askedUnder_iff`
  when it is.
-/

namespace ChartBoard

open Filtering (ActiveFilter)
open Relationship (Edge Field JoinPath)
open Result
open Sql

/-! ## Plain key figures -/

namespace Widget

variable {settings : Settings} {s : Source} {edges : List Edge} {schemas : List Schema.Table}
  {constraints : Constraints} {path : JoinPath} {conditions : List Condition} {c plain : Compiled}

/-- The condition that the value of an expression is one of some texts. -/
def textCondition (e : Expr) (texts : List Datum) (temporal : Bool) : Condition :=
  if temporal then .labelOneOf e (texts.map Datum.label)
  else .oneOf e (texts.map fun v => .text v.label)

theorem conditionOn_of_texts (e : Expr) {values : List Datum} (hne : values ≠ [])
    (htexts : ∀ v ∈ values, ∃ t, v = .text t) (temporal : Bool) :
    conditionOn e values temporal = .ok (textCondition e values temporal) := by
  have hknown : values.filter (!·.isNull) = values := List.filter_eq_self.mpr fun v hv => by
    obtain ⟨t, rfl⟩ := htexts v hv
    rfl
  have hliterals : values.mapM Literal.ofDatum = .ok (values.map fun v => .text v.label) :=
    mapM_eq_map fun v hv => by
      obtain ⟨t, rfl⟩ := htexts v hv
      rfl
  have hlabels : values.map Datum.display = values.map Datum.label :=
    List.map_congr_left fun v hv => by
      obtain ⟨t, rfl⟩ := htexts v hv
      rfl
  obtain ⟨v, rest, rfl⟩ := List.exists_cons_of_ne_nil hne
  unfold conditionOn textCondition
  rw [hknown]
  cases temporal
  · simp only [Bool.false_eq_true, if_false, hliterals]
    rfl
  · simp only [if_true, hlabels]

theorem textCondition_inj {e e' : Expr} {texts texts' : List Datum} {temporal temporal' : Bool}
    (h : textCondition e texts temporal = textCondition e' texts' temporal') : e = e' := by
  unfold textCondition at h
  cases temporal <;> cases temporal'
  · exact (Condition.oneOf.inj h).1
  · cases h
  · cases h
  · exact (Condition.labelOneOf.inj h).1

namespace Source

/-- True of a key figure all of whose fields are columns of its base table by their names alone, and
which is not linked to a column. -/
structure IsPlain (s : Source) : Prop where
  kind : s.kind = "kpi"
  bare : ∀ field ∈ s.usedFields [], '.' ∉ field.toList
  unlinked : trimmed s.options.kpiFilterXAxis = ""

/-- The condition of a key figure with a time column. -/
def timeConditions (s : Source) : List Condition :=
  if s.timeField.isEmpty then [] else [.known (Expr.column 0 s.timeField).moment]

theorem trim_baseTable (s : Source) : Text.trim s.baseTable = s.baseTable := Text.trim_trim _

theorem kpiQuery_narrowed (settings : Settings) (s : Source) (path : JoinPath)
    (conditions : List Condition) : s.kpiQuery settings path conditions =
      (s.kpiQuery settings path []).map (·.narrowed conditions) := by
  unfold kpiQuery
  rw [map_bind]
  refine bind_congr fun y => ?_
  split
  · rfl
  · rw [map_bind]
    refine bind_congr fun (length, unit) => ?_
    simp only
    split
    · rfl
    · rw [map_bind]
      rfl

/-- The parts of a compiled key figure. -/
theorem compile_eq_ok_of_kpi (hkind : s.kind = "kpi")
    (h : s.compile settings edges schemas constraints = .ok c) : ∃ path conditions,
      JoinPath.resolve s.baseTable (s.usedTables constraints) edges = .ok path ∧
      constraints.mapM (constraintCondition path schemas) = .ok conditions ∧
      s.kpiQuery settings path conditions = .ok c.query := by
  obtain ⟨-, path, conditions, hpath, hconditions, hquery⟩ := compile_eq_ok h
  refine ⟨path, conditions, hpath, hconditions, ?_⟩
  obtain ⟨-, -, hq, -⟩ | ⟨hscatter, -⟩ | ⟨hother, -⟩ := hquery
  · exact hq
  · exact absurd (hkind.symm.trans hscatter) (by decide)
  · exact absurd hkind hother

/-- Constraints that join no table add their conditions to the query. -/
theorem compile_narrowed (hkind : s.kind = "kpi")
    (hplain : s.compile settings edges schemas [] = .ok plain)
    (hpath : JoinPath.resolve s.baseTable (s.usedTables []) edges = .ok path)
    (hsame : JoinPath.resolve s.baseTable (s.usedTables constraints) edges = .ok path)
    (hconditions : constraints.mapM (constraintCondition path schemas) = .ok conditions) :
    s.compile settings edges schemas constraints =
      .ok { plain with query := plain.query.narrowed conditions } := by
  unfold compile at hplain ⊢
  obtain ⟨_, hvalidate, hplain⟩ := bind_eq_ok.mp hplain
  rw [hpath] at hplain
  rw [hvalidate, hsame]
  simp only [hkind, beq_self_eq_true, if_true, bind_eq_ok, pure_eq_ok, Except.ok.injEq,
    exists_eq_left', List.mapM_nil, hconditions] at hplain ⊢
  obtain ⟨q, hq, rfl⟩ := hplain
  have hnarrowed : s.kpiQuery settings path conditions = .ok (q.narrowed conditions) := by
    rw [kpiQuery_narrowed, hq]
    rfl
  exact ⟨(), trivial, _, hnarrowed, rfl⟩

variable (h : s.IsPlain)

include h

theorem IsPlain.bare_of_mem_yFields {field : String} (hfield : field ∈ s.yFields) :
    '.' ∉ field.toList :=
  h.bare field (by simp [usedFields, hfield])

theorem IsPlain.bare_timeField : '.' ∉ s.timeField.toList := by
  intro hpoint
  rw [timeField, trimmed, Text.toList_trim] at hpoint
  have hgiven := Text.mem_of_mem_trimChars hpoint
  cases hcolumn : s.options.kpiTimeColumn with
  | none => simp [hcolumn] at hgiven
  | some column =>
    rw [hcolumn, Option.getD_some] at hgiven
    exact h.bare column (by simp [usedFields, h.kind, hcolumn]) hgiven

/-- A plain key figure touches its base table alone, and so do constraints on this table. -/
theorem IsPlain.resolve_eq (edges : List Edge)
    (hconstraints : ∀ p ∈ constraints, (Field.parse s.baseTable p.1).table = s.baseTable) :
    JoinPath.resolve s.baseTable (s.usedTables constraints) edges = .ok ⟨s.baseTable, []⟩ := by
  refine JoinPath.resolve_of_forall_eq fun table htable => ?_
  rw [usedTables, mem_distinctTexts] at htable
  obtain ⟨field, hfield, rfl⟩ := List.mem_map.mp htable
  have hfields : s.usedFields constraints = s.usedFields [] ++ constraints.map (·.1) := by
    simp [usedFields]
  rw [hfields, List.mem_filter, List.mem_append] at hfield
  rcases hfield.1 with hused | hused
  · rw [Field.parse_of_bare _ (h.bare field hused)]
  · obtain ⟨p, hp, rfl⟩ := List.mem_map.mp hused
    exact hconstraints p hp

/-- The query of a plain key figure reads its base table, on the condition of its time column. -/
theorem IsPlain.reads_base (hplain : s.compile settings edges schemas [] = .ok plain) :
    plain.query.tables = ⟨s.baseTable, []⟩ ∧ plain.query.conditions = s.timeConditions := by
  obtain ⟨path, conditions, hpath, hconditions, hq⟩ := compile_eq_ok_of_kpi h.kind hplain
  obtain rfl := Except.ok.inj (hpath.symm.trans (h.resolve_eq edges (by simp)))
  obtain rfl := pure_eq_ok.mp hconditions
  have htime : (JoinPath.mk s.baseTable []).column s.timeField = .ok (.column 0 s.timeField) := by
    rw [JoinPath.column_eq_zero_iff, Field.parse_of_bare _ h.bare_timeField, timeField, trimmed,
      Text.trim_trim]
  unfold kpiQuery at hq
  obtain ⟨y, -, hq⟩ := bind_eq_ok.mp hq
  unfold timeConditions
  split at hq
  · rename_i hempty
    rw [if_pos hempty, ← pure_eq_ok.mp hq]
    exact ⟨rfl, rfl⟩
  · rename_i htimed
    obtain ⟨⟨length, unit⟩, -, hq⟩ := bind_eq_ok.mp hq
    simp only [htime] at hq
    split at hq
    · cases hq
    · rw [if_neg htimed, ← pure_eq_ok.mp hq]
      exact ⟨rfl, rfl⟩

end Source

end Widget

/-! ## Constraints of filters -/

namespace Kpi

open Widget

variable {settings : Settings} {s : Source} {edges : List Edge} {schemas : List Schema.Table}
  {filters : List ActiveFilter} {plain : Compiled}

/-- The filters on a table. -/
def ownFilters (base : String) (filters : List ActiveFilter) : List ActiveFilter :=
  filters.filter fun f => f.table == base

/-- The constraint of a filter on the base table. -/
def ownConstraint (base : String) (f : ActiveFilter) : String × Datum :=
  (baseField base f.column, .list f.values)

/-- The condition of a filter on the base table: its column has one of its values. -/
def filterCondition (schemas : List Schema.Table) (f : ActiveFilter) : Condition :=
  textCondition (.column 0 f.column) f.values
    (isTemporalType (Schema.columnType schemas f.table f.column))

/-- True of a filter that allows some texts. -/
structure HoldsTexts (f : ActiveFilter) : Prop where
  ne_nil : f.values ≠ []
  text : ∀ v ∈ f.values, ∃ t, v = .text t

theorem mem_ownFilters {base : String} {f : ActiveFilter} :
    f ∈ ownFilters base filters ↔ f ∈ filters ∧ f.table = base := by
  simp [ownFilters]

theorem baseField_injective (base : String) : (baseField base).Injective := by
  intro column column' h
  have hchars := congrArg String.toList h
  simp only [baseField, String.toList_append, List.append_cancel_left_eq] at hchars
  exact String.toList_injective hchars

/-- Filters with distinct keys mean distinct constraints. -/
theorem nodup_ownConstraints (base : String) (hkeys : (filters.map (·.key)).Nodup) :
    (((ownFilters base filters).map (ownConstraint base)).map (·.1)).Nodup := by
  have hown : ((ownFilters base filters).map (·.key)).Nodup :=
    hkeys.sublist (List.filter_sublist.map _)
  rw [List.map_map]
  refine List.pairwise_map.mpr ((List.pairwise_map.mp hown).imp_of_mem ?_)
  intro f g hf hg hne heq
  have hcolumn : f.column = g.column := baseField_injective base heq
  have htable : f.table = g.table := by
    rw [(mem_ownFilters.mp hf).2, (mem_ownFilters.mp hg).2]
  exact hne (by rw [ActiveFilter.key, ActiveFilter.key, hcolumn, htable])

/-- The constraints of filters for a plain key figure are those of the filters on its table. -/
theorem constraints?_of_isPlain (h : s.IsPlain)
    (hplain : s.compile settings edges schemas [] = .ok plain)
    (hkeys : (filters.map (·.key)).Nodup) (hheld : ∀ f ∈ filters, f.values ≠ []) :
    constraints? s filters =
      if (ownFilters s.baseTable filters).isEmpty then none
      else some ((ownFilters s.baseTable filters).map (ownConstraint s.baseTable)) := by
  have hfilterable : isFilterable s = true := by
    obtain ⟨y, rest, hy⟩ :=
      List.exists_cons_of_ne_nil (Source.compile_eq_ok hplain).1.yFields
    have hbare := h.bare_of_mem_yFields (hy ▸ List.mem_cons_self)
    simp [isFilterable, hy, h.kind, Field.parse_of_bare _ hbare, Source.ne_empty_baseTable hplain]
  have hlink : Field.parse s.baseTable (s.options.kpiFilterXAxis.getD "") = ⟨s.baseTable, ""⟩ := by
    have hblank : Text.trim (s.options.kpiFilterXAxis.getD "") = "" := h.unlinked
    rw [← Field.parse_trim, hblank]
    rfl
  have hactive : Filtering.withValues filters = filters :=
    List.filter_eq_self.mpr fun f hf => by simpa using hheld f hf
  have hlinked : (normalLabel (.text "")).isEmpty = true := by decide
  have htable : tableConstraints? s.baseTable filters =
      if (ownFilters s.baseTable filters).isEmpty then none
      else some (Keyed.ofPairs ((ownFilters s.baseTable filters).map
        (ownConstraint s.baseTable))) := rfl
  rw [constraints?, if_pos hfilterable]
  simp only [hlink, hactive, hlinked, if_true]
  rw [htable, Keyed.ofPairs_of_nodup (nodup_ownConstraints s.baseTable hkeys)]

/-! ## Conditions of filters -/

variable {path : JoinPath} {f : ActiveFilter}

/-- A filter becomes the condition on its column if its field is read back as that column. -/
theorem constraintCondition_of_spelled (hbase : path.base ≠ "")
    (htrimmed : Text.trim path.base = path.base) (htable : f.table = path.base)
    (htexts : HoldsTexts f) (h : Field.Spelled f.table f.column) :
    constraintCondition path schemas (ownConstraint path.base f) =
      .ok (filterCondition schemas f) := by
  have hparse : Field.parse path.base (baseField path.base f.column) = ⟨path.base, f.column⟩ :=
    (Field.parse_qualified_eq_iff _ _ hbase htrimmed).mpr (htable ▸ h)
  have hcolumn : path.column (baseField path.base f.column) = .ok (.column 0 f.column) :=
    JoinPath.column_eq_zero_iff.mpr hparse
  have htemporal : isTemporalField path.base schemas (baseField path.base f.column) =
      isTemporalType (Schema.columnType schemas f.table f.column) := by
    have hne : (baseField path.base f.column).isEmpty = false := by
      simp [baseField]
    simp only [isTemporalField, hparse, hne, htable, Bool.not_false, Bool.true_and]
  unfold constraintCondition
  simp only [ownConstraint, hcolumn, htemporal]
  exact conditionOn_of_texts _ htexts.ne_nil htexts.text _

/-- A filter becomes the condition on its column only if its field is read back as that column. -/
theorem spelled_of_constraintCondition (hbase : path.base ≠ "")
    (htrimmed : Text.trim path.base = path.base) (htable : f.table = path.base)
    (htexts : HoldsTexts f)
    (h : constraintCondition path schemas (ownConstraint path.base f) =
      .ok (filterCondition schemas f)) : Field.Spelled f.table f.column := by
  obtain ⟨e, he, h⟩ := bind_eq_ok.mp h
  obtain ⟨values, hvalues, h⟩ := bind_eq_ok.mp h
  obtain rfl := Except.ok.inj hvalues
  rw [conditionOn_of_texts _ htexts.ne_nil htexts.text] at h
  obtain rfl := textCondition_inj (Except.ok.inj h)
  rw [htable]
  exact (Field.parse_qualified_eq_iff _ _ hbase htrimmed).mp
    (JoinPath.column_eq_zero_iff.mp he)

/-! ## Key figures under their filters -/

/-- True of a key figure that is asked for under the filters on its table and no others: nothing is
asked if there are none, else the query reads the base table alone, under one condition for each of
them besides that of its time column. -/
def AskedUnder (settings : Settings) (s : Source) (edges : List Edge)
    (schemas : List Schema.Table) (filters : List ActiveFilter) : Prop :=
  match constraints? s filters with
  | none => ownFilters s.baseTable filters = []
  | some constraints => ∃ c, s.compile settings edges schemas constraints = .ok c ∧
      c.query.tables = ⟨s.baseTable, []⟩ ∧
      c.query.conditions =
        s.timeConditions ++ (ownFilters s.baseTable filters).map (filterCondition schemas)

/-- If all fields of the filters on its table are read back as their columns, the query of a key
figure is narrowed by the conditions of these filters. -/
theorem compile_ownConstraints (h : s.IsPlain)
    (hplain : s.compile settings edges schemas [] = .ok plain)
    (htexts : ∀ f ∈ filters, HoldsTexts f)
    (hspelled : ∀ f ∈ ownFilters s.baseTable filters, Field.Spelled f.table f.column) :
    s.compile settings edges schemas
        ((ownFilters s.baseTable filters).map (ownConstraint s.baseTable)) =
      .ok { plain with
        query := plain.query.narrowed
          ((ownFilters s.baseTable filters).map (filterCondition schemas)) } := by
  have hbase := Source.ne_empty_baseTable hplain
  have htrimmed := s.trim_baseTable
  refine Source.compile_narrowed h.kind hplain (h.resolve_eq edges (by simp))
    (h.resolve_eq edges fun p hp => ?_) ?_
  · obtain ⟨f, hf, rfl⟩ := List.mem_map.mp hp
    have hparse : Field.parse s.baseTable (ownConstraint s.baseTable f).1 =
        ⟨s.baseTable, f.column⟩ :=
      (Field.parse_qualified_eq_iff _ _ hbase htrimmed).mpr
        ((mem_ownFilters.mp hf).2 ▸ hspelled f hf)
    rw [hparse]
  · rw [List.mapM_map]
    refine mapM_eq_map fun f hf => ?_
    obtain ⟨hactive, htable⟩ := mem_ownFilters.mp hf
    exact constraintCondition_of_spelled hbase htrimmed htable (htexts f hactive) (hspelled f hf)

/-- If the conditions of a query are those of the filters on its table, the fields of these filters
have been read back as their columns. -/
theorem spelled_of_conditions (h : s.IsPlain) (htexts : ∀ f ∈ filters, HoldsTexts f) {c : Compiled}
    (hc : s.compile settings edges schemas
      ((ownFilters s.baseTable filters).map (ownConstraint s.baseTable)) = .ok c)
    (hconditions : c.query.conditions =
      s.timeConditions ++ (ownFilters s.baseTable filters).map (filterCondition schemas)) :
    ∀ f ∈ ownFilters s.baseTable filters, Field.Spelled f.table f.column := by
  obtain ⟨path, conditions, hpath, hmapM, hq⟩ := Source.compile_eq_ok_of_kpi h.kind hc
  have hlength : conditions.length = (ownFilters s.baseTable filters).length := by
    rw [length_of_mapM_eq_ok hmapM, List.length_map]
  rw [Source.kpiQuery_narrowed] at hq
  obtain ⟨q, -, hq⟩ := map_eq_ok.mp hq
  rw [← hq, Query.conditions_narrowed] at hconditions
  -- The conditions of the constraints stand at the end, one for each of them.
  obtain ⟨-, rfl⟩ := List.append_inj' hconditions (by simpa using hlength)
  have hbase : path.base = s.baseTable := (JoinPath.resolve_eq_ok hpath).1
  rw [mapM_eq_ok, List.forall₂_map_left_iff, List.forall₂_map_right_iff,
    List.forall₂_same, ← hbase] at hmapM
  intro f hf
  rw [← hbase] at hf
  obtain ⟨hactive, htable⟩ := mem_ownFilters.mp hf
  have hne : path.base ≠ "" := hbase ▸ Source.ne_empty_baseTable hc
  have htrimmed : Text.trim path.base = path.base := hbase ▸ s.trim_baseTable
  exact spelled_of_constraintCondition hne htrimmed htable (htexts f hactive) (hmapM f hf)

/-- A plain key figure is asked for under the filters on its table exactly if their fields are read
back as their columns: if there are any, the name of the table has no point, and no column of theirs
ends with a blank. -/
theorem askedUnder_iff (h : s.IsPlain)
    (hplain : s.compile settings edges schemas [] = .ok plain)
    (hkeys : (filters.map (·.key)).Nodup) (htexts : ∀ f ∈ filters, HoldsTexts f) :
    AskedUnder settings s edges schemas filters ↔
      ∀ f ∈ ownFilters s.baseTable filters, Field.Spelled f.table f.column := by
  have hconstraints := constraints?_of_isPlain h hplain hkeys fun f hf => (htexts f hf).ne_nil
  unfold AskedUnder
  split
  · rename_i hnone
    have hown : ownFilters s.baseTable filters = [] := by
      rw [hconstraints] at hnone
      split at hnone
      · rename_i hempty
        exact List.isEmpty_iff.mp hempty
      · cases hnone
    simp [hown]
  · rename_i constraints hsome
    obtain rfl : (ownFilters s.baseTable filters).map (ownConstraint s.baseTable) =
        constraints := by
      rw [hconstraints] at hsome
      split at hsome
      · cases hsome
      · exact Option.some.inj hsome
    obtain ⟨htables, hconditions⟩ := h.reads_base hplain
    constructor
    · rintro ⟨c, hc, -, hconditions⟩
      exact spelled_of_conditions h htexts hc hconditions
    · intro hspelled
      refine ⟨_, compile_ownConstraints h hplain htexts hspelled, ?_, ?_⟩
      · rw [Query.tables_narrowed, htables]
      · rw [Query.conditions_narrowed, hconditions]

/-- The total of a column of a table over a month of days. -/
def totalOf (table : String) : Source where
  tableName := table
  xAxis := none
  yAxis := some (.one "total")
  chartType := "kpi"
  options := { Options.none with kpiTimeColumn := some "day" }

/-- A filter on the cities in a table. -/
def onlyRomeIn (table : String) : ActiveFilter := ⟨table, "city", [.text "Rome"]⟩

theorem isPlain_totalOf (table : String) : (totalOf table).IsPlain := by
  have hkind : (totalOf "").kind = "kpi" := by decide
  have hbare : ∀ field ∈ (totalOf "").usedFields [], '.' ∉ field.toList := by decide
  have hunlinked : trimmed (totalOf "").options.kpiFilterXAxis = "" := by decide
  exact ⟨hkind, hbare, hunlinked⟩

theorem holdsTexts_onlyRomeIn (table : String) : HoldsTexts (onlyRomeIn table) :=
  ⟨List.cons_ne_nil _ _, fun _ hv => ⟨"Rome", List.mem_singleton.mp hv⟩⟩

theorem askedUnder_iff_sales :
    (totalOf "sales").IsPlain ∧ (∃ plain, (totalOf "sales").compile {} [] [] [] = .ok plain) ∧
      ([onlyRomeIn "sales", onlyRomeIn "visits"].map (·.key)).Nodup ∧
      ownFilters "sales" [onlyRomeIn "sales", onlyRomeIn "visits"] = [onlyRomeIn "sales"] ∧
      AskedUnder {} (totalOf "sales") [] [] [onlyRomeIn "sales", onlyRomeIn "visits"] := by
  have hcompiles : ((totalOf "sales").compile {} [] [] []).isOk = true := by decide +kernel
  have hkeys : ([onlyRomeIn "sales", onlyRomeIn "visits"].map (·.key)).Nodup := by decide
  have htexts : ∀ f ∈ [onlyRomeIn "sales", onlyRomeIn "visits"], HoldsTexts f := by
    simp [holdsTexts_onlyRomeIn]
  have hown : ownFilters "sales" [onlyRomeIn "sales", onlyRomeIn "visits"] =
      [onlyRomeIn "sales"] := rfl
  have hspelled : Field.Spelled "sales" "city" := ⟨by decide, by decide⟩
  cases hplain : (totalOf "sales").compile {} [] [] [] with
  | error fault => simp [hplain, Except.isOk, Except.toBool] at hcompiles
  | ok plain =>
    have hasked := (askedUnder_iff (isPlain_totalOf "sales") hplain hkeys htexts).mpr
      fun f hf => by
        obtain rfl : f = onlyRomeIn "sales" := List.mem_singleton.mp hf
        exact hspelled
    exact ⟨isPlain_totalOf _, ⟨plain, rfl⟩, hkeys, hown, hasked⟩

/-- The name of a table can have a point.  Its part before the point is then taken for the table of
the filter. -/
theorem not_askedUnder :
    (totalOf "sales.csv").IsPlain ∧ HoldsTexts (onlyRomeIn "sales.csv") ∧
      (∃ plain, (totalOf "sales.csv").compile {} [] [] [] = .ok plain) ∧
      (∃ constraints, constraints? (totalOf "sales.csv") [onlyRomeIn "sales.csv"] =
        some constraints ∧ (totalOf "sales.csv").compile {} [] [] constraints =
          .error (.missingRelationship "sales.csv" "sales")) ∧
      ¬ AskedUnder {} (totalOf "sales.csv") [] [] [onlyRomeIn "sales.csv"] := by
  have hcompiles : ((totalOf "sales.csv").compile {} [] [] []).isOk = true := by decide +kernel
  have hrefused : ((totalOf "sales.csv").compile {} [] []
      [("sales.csv.city", .list [.text "Rome"])]).map (fun _ => ()) =
        .error (.missingRelationship "sales.csv" "sales") := by
    decide
  cases hplain : (totalOf "sales.csv").compile {} [] [] [] with
  | error fault => simp [hplain, Except.isOk, Except.toBool] at hcompiles
  | ok plain =>
    cases hnarrowed : (totalOf "sales.csv").compile {} [] []
        [("sales.csv.city", .list [.text "Rome"])] with
    | ok c => simp [hnarrowed, Except.map] at hrefused
    | error fault =>
      obtain rfl : fault = .missingRelationship "sales.csv" "sales" := by
        simpa [hnarrowed, Except.map] using hrefused
      have hconstraints : constraints? (totalOf "sales.csv") [onlyRomeIn "sales.csv"] =
          some [("sales.csv.city", .list [.text "Rome"])] :=
        constraints?_of_isPlain (isPlain_totalOf _) hplain (by simp) (by simp [onlyRomeIn])
      refine ⟨isPlain_totalOf _, holdsTexts_onlyRomeIn _, ⟨plain, rfl⟩,
        ⟨_, hconstraints, hnarrowed⟩, ?_⟩
      simp [AskedUnder, hconstraints, hnarrowed]

end Kpi

end ChartBoard
