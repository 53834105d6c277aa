import ChartBoard.Proofs.Result
import ChartBoard.Widget.Compiled

/-!
# Parts of compiled widgets

What is known of a source that has been compiled, and of the query it has been compiled to.

* `Source.compile_eq_ok` takes a compilation apart, `Source.scatterQuery_eq_ok`,
  `Source.axisQuery_eq_ok` and `Source.kpiQuery_eq_ok` its three kinds of query.
* `Source.Accepted` is what validation has checked.
-/

namespace ChartBoard.Widget

open Relationship Sql Result

variable {settings : Settings} {s : Source} {edges : List Edge} {schemas : List Schema.Table}
  {constraints : Constraints} {path : JoinPath} {conditions : List Condition} {c : Compiled}

/-- The output names in the order of the statement. -/
def Compiled.outputs (c : Compiled) : List String :=
  c.xAlias.toList ++ c.seriesAlias.toList ++ c.yAliases

namespace Source

/-! ## Validation -/

/-- What validation has checked of a source. -/
structure Accepted (s : Source) : Prop where
  kind : s.kind ∈ chartKinds
  aggregation : s.aggregation ∈ Aggregate.supported
  yFields : s.yFields ≠ []
  xField : s.kind ≠ "kpi" → s.xField ≠ ""
  oneMeasure : s.seriesBy.isSome → s.kind = "bar" ∨ s.kind = "line" → s.yFields.length ≤ 1

theorem accepted_of_validate (h : s.validate = .ok ()) : s.Accepted := by
  have hmisuse : s.misuse? = none := by
    unfold validate at h
    cases hmisuse : s.misuse? with
    | none => rfl
    | some m => simp [hmisuse] at h
  unfold misuse? at hmisuse
  split at hmisuse
  · cases hmisuse
  split at hmisuse
  · cases hmisuse
  rename_i hkind
  split at hmisuse
  · cases hmisuse
  rename_i haggregation
  split at hmisuse
  · rename_i hkpi
    have hkpi : s.kind = "kpi" := by simpa using hkpi
    split at hmisuse
    · cases hmisuse
    rename_i hy
    refine ⟨not_not.mp hkind, not_not.mp haggregation, by simpa using hy,
      fun hne => absurd hkpi hne, ?_⟩
    rw [hkpi]
    rintro - (h | h) <;> simp at h
  split at hmisuse
  · cases hmisuse
  rename_i hx
  split at hmisuse
  · cases hmisuse
  rename_i hy
  split at hmisuse
  · cases hmisuse
  rename_i hseveral
  refine ⟨not_not.mp hkind, not_not.mp haggregation, by simpa using hy,
    fun _ => by simpa using hx, fun hseries haxis => ?_⟩
  by_contra hlength
  apply hseveral
  simp only [Bool.and_eq_true, Bool.or_eq_true, beq_iff_eq, decide_eq_true_eq]
  exact ⟨⟨hseries, by omega⟩, haxis⟩

/-! ## Compilation -/

theorem ne_empty_baseTable (h : s.compile settings edges schemas constraints = .ok c) :
    s.baseTable ≠ "" := by
  unfold compile at h
  obtain ⟨_, hvalidate, -⟩ := bind_eq_ok.mp h
  intro hempty
  have hmisuse : s.misuse? = some .noTable := by
    unfold misuse?
    rw [hempty]
    rfl
  rw [validate, hmisuse] at hvalidate
  cases hvalidate

/-- The three ways in which a source is compiled. -/
theorem compile_eq_ok (h : s.compile settings edges schemas constraints = .ok c) :
    s.Accepted ∧ ∃ path conditions,
      JoinPath.resolve s.baseTable (s.usedTables constraints) edges = .ok path ∧
      constraints.mapM (constraintCondition path schemas) = .ok conditions ∧
      ((s.kind = "kpi" ∧ c.kind = "kpi" ∧ s.kpiQuery settings path conditions = .ok c.query ∧
          c.xAlias = none ∧ c.seriesAlias = none ∧ c.yAliases = [currentValue, previousValue]) ∨
        (s.kind = "scatter" ∧ s.scatterQuery path conditions = .ok c) ∨
        (s.kind ≠ "kpi" ∧ s.kind ≠ "scatter" ∧ s.axisQuery path schemas conditions = .ok c)) := by
  unfold compile at h
  simp only [bind_eq_ok] at h
  obtain ⟨_, hvalidate, path, hpath, conditions, hconditions, h⟩ := h
  refine ⟨accepted_of_validate hvalidate, path, conditions, hpath, hconditions, ?_⟩
  split at h
  · rename_i hkind
    have hkind : s.kind = "kpi" := by simpa using hkind
    obtain ⟨q, hq, h⟩ := bind_eq_ok.mp h
    obtain rfl := pure_eq_ok.mp h
    exact Or.inl ⟨hkind, hkind, hq, rfl, rfl, rfl⟩
  · rename_i hkpi
    have hkpi : s.kind ≠ "kpi" := by simpa using hkpi
    split at h
    · rename_i hkind
      exact Or.inr (Or.inl ⟨by simpa using hkind, h⟩)
    · rename_i hscatter
      exact Or.inr (Or.inr ⟨hkpi, by simpa using hscatter, h⟩)

/-! ## The three kinds of query -/

theorem scatterQuery_eq_ok (h : s.scatterQuery path conditions = .ok c) :
    ∃ x ys names, path.column s.xField = .ok x ∧ s.yFields.mapM path.column = .ok ys ∧
      names = freshNames (s.xField :: s.yFields) ∧
      c = {
        query := .table (((x :: ys).zip names).map fun p => ⟨p.1.numeric, p.2⟩) path.tables
          conditions none
        kind := s.kind
        xAlias := names.head?
        yAliases := names.drop 1
        seriesAlias := none
        temporalX := false } := by
  unfold scatterQuery at h
  simp only [bind_eq_ok, pure_eq_ok] at h
  obtain ⟨x, hx, ys, hys, rfl⟩ := h
  exact ⟨x, ys, _, hx, hys, rfl, rfl⟩

/-- The expression of a measure. -/
def measure (s : Source) (e : Expr) : Expr :=
  if Aggregate.ofCapitals s.aggregation = .rowLevel then e.numeric
  else (Aggregate.ofCapitals s.aggregation).column e

theorem outputs_of_scatterQuery {names : List String} (hx : c.xAlias = names.head?)
    (hseries : c.seriesAlias = none) (hy : c.yAliases = names.drop 1) : c.outputs = names := by
  rw [Compiled.outputs, hx, hseries, hy]
  cases names <;> simp

theorem axisQuery_eq_ok (h : s.axisQuery path schemas conditions = .ok c) :
    ∃ raw series ys x names groups, path.column s.xField = .ok raw ∧
      s.seriesBy.toList.mapM path.column = .ok series ∧ s.yFields.mapM path.column = .ok ys ∧
      (x = raw ∨ x = bucket s.granularity raw) ∧ (∀ p ∈ groups, p = (x :: series, x)) ∧
      names = freshNames (s.xField :: s.seriesBy.toList ++ s.yFields) ∧
      c = {
        query := .table (((x :: series ++ ys.map s.measure).zip names).map fun p => ⟨p.1, p.2⟩)
          path.tables conditions groups
        kind := s.kind
        xAlias := names.head?
        yAliases := names.drop (1 + series.length)
        seriesAlias := if series.isEmpty then none else (names.drop 1).head?
        temporalX := isTemporalField s.baseTable schemas s.xField } := by
  unfold axisQuery at h
  simp only [bind_eq_ok, pure_eq_ok] at h
  obtain ⟨raw, hraw, series, hseries, ys, hys, rfl⟩ := h
  refine ⟨raw, series, ys, _, _, _, hraw, hseries, hys, ?_, ?_, rfl, rfl⟩
  · split
    · exact Or.inr rfl
    · exact Or.inl rfl
  · intro p hp
    split at hp
    · cases hp
    · exact (Option.mem_some.mp hp).symm

theorem outputs_of_axisQuery {names : List String} {series : List Expr}
    (hlength : series.length = s.seriesBy.toList.length) (hx : c.xAlias = names.head?)
    (hseries : c.seriesAlias = if series.isEmpty then none else (names.drop 1).head?)
    (hy : c.yAliases = names.drop (1 + series.length)) : c.outputs = names := by
  rw [Compiled.outputs, hx, hseries, hy]
  have hone : series.length ≤ 1 := by
    rw [hlength]
    cases s.seriesBy <;> simp
  cases series with
  | nil => cases names <;> simp
  | cons e rest =>
    obtain rfl : rest = [] := by
      rw [← List.length_eq_zero_iff]
      simpa using hone
    cases names with
    | nil => simp
    | cons first names => cases names <;> simp

theorem kpiQuery_eq_ok {q : Query} (h : s.kpiQuery settings path conditions = .ok q) :
    ∃ y, path.column (s.yFields.headD "") = .ok y ∧
      (s.timeField = "" ∧
          q = .total ((Aggregate.ofCapitals s.aggregation).column y) path.tables conditions ∨
        ∃ time length unit, s.timeField ≠ "" ∧ path.column s.timeField = .ok time ∧
          s.window settings = .ok (length, unit) ∧
          q = .windows time.moment ((Aggregate.ofCapitals s.aggregation).input y) path.tables
            (.known time.moment :: conditions)
            ((Aggregate.ofCapitals s.aggregation).outer (.code "v")) length unit) := by
  unfold kpiQuery at h
  obtain ⟨y, hy, h⟩ := bind_eq_ok.mp h
  refine ⟨y, hy, ?_⟩
  split at h
  · rename_i hempty
    exact Or.inl ⟨by simpa using hempty, (pure_eq_ok.mp h).symm⟩
  · rename_i htimed
    obtain ⟨⟨length, unit⟩, hwindow, h⟩ := bind_eq_ok.mp h
    simp only at h
    split at h
    · cases h
    · obtain ⟨time, htime, h⟩ := bind_eq_ok.mp h
      exact Or.inr ⟨time, length, unit, by simpa using htimed, htime, hwindow,
        (pure_eq_ok.mp h).symm⟩

theorem kind_of_compile (h : s.compile settings edges schemas constraints = .ok c) :
    c.kind = s.kind := by
  obtain ⟨-, path, conditions, -, -, h⟩ := compile_eq_ok h
  rcases h with ⟨hkpi, hkind, -⟩ | ⟨-, h⟩ | ⟨-, -, h⟩
  · rw [hkind, hkpi]
  · obtain ⟨x, ys, names, -, -, -, hc⟩ := scatterQuery_eq_ok h
    rw [hc]
  · obtain ⟨raw, series, ys, x, names, groups, -, -, -, -, -, -, hc⟩ := axisQuery_eq_ok h
    rw [hc]

theorem eq_name_of_ofName? {unit : String} (h : (Granularity.ofName? unit).isSome) :
    ∃ u : Granularity, unit = u.name := by
  unfold Granularity.ofName? at h
  split at h
  · rename_i hunit
    exact ⟨.day, beq_iff_eq.mp hunit⟩
  split at h
  · rename_i hunit
    exact ⟨.month, beq_iff_eq.mp hunit⟩
  split at h
  · rename_i hunit
    exact ⟨.year, beq_iff_eq.mp hunit⟩
  · cases h

/-- The unit of a window is the name of a unit of time. -/
theorem window_eq_ok {length : Nat} {unit : String} (h : s.window settings = .ok (length, unit)) :
    ∃ u : Granularity, unit = u.name := by
  unfold window at h
  extract_lets length' given unit' at h
  split at h
  · rename_i hsome
    rw [Except.ok.injEq, Prod.mk.injEq] at h
    rw [h.2] at hsome
    exact eq_name_of_ofName? hsome
  · cases h

end Source

end ChartBoard.Widget
