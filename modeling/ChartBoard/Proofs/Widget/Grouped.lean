import ChartBoard.Proofs.Chart.Pivot
import ChartBoard.Proofs.Datum.DateLabel
import ChartBoard.Proofs.Datum.Distinct
import ChartBoard.Proofs.Datum.Label
import ChartBoard.Proofs.Widget.Columns

/-!
# Grouped rows in a chart

A measure that is split into series is grouped by two expressions, and the rows of the answer differ
in the two values that these give.  The chart tells rows apart by the texts of the two values.

* `Source.Split` is what is known of the compiled widget, `AccountsFor` says that a chart shows a
  row.
* `Grouped` says which rows such a statement can give, `Blurred` which values it tells apart and the
  chart does not, as `Grouped.place_eq_iff` says.
* `accountsFor_grouped` is the result.
-/

namespace ChartBoard.Widget

open Relationship Sql Result Calendar

variable {settings : Settings} {s : Source} {edges : List Edge} {schemas : List Schema.Table}
  {constraints : Constraints} {path : JoinPath} {conditions : List Condition} {c : Compiled}

/-! ## The statement -/

/-- A measure by two expressions under three output names, one row for each pair of values. -/
def groupedQuery (x series measure : Expr) (names : List String) (tables : From)
    (conditions : List Condition) : Query :=
  .table (([x, series, measure].zip names).map fun p => ⟨p.1, p.2⟩) tables conditions
    (some ([x, series], x))

theorem ofCapitals_ne_rowLevel {name : String} (h : name ≠ "NONE") :
    Aggregate.ofCapitals name ≠ .rowLevel := by
  simp only [Aggregate.ofCapitals, beq_iff_eq, if_neg h]
  split_ifs <;> simp

namespace Source

/-- What is known of a compiled widget whose measure is split into series. -/
structure Split (s : Source) (c : Compiled) (seriesName measureName : String) : Prop where
  kind : s.kind = "bar" ∨ s.kind = "line"
  xField : s.xField ≠ ""
  named : s.Named c
  query : ∃ raw series measure tables conditions,
    c.query = groupedQuery (if c.temporalX then bucket s.granularity raw else raw) series measure
      c.outputs tables conditions
  outputs : c.outputs = [s.xField, seriesName, measureName]
  seriesAlias : c.seriesAlias = some seriesName
  yAliases : c.yAliases = [measureName]

theorem kind_ne {kind : String} (hkind : s.kind = "bar" ∨ s.kind = "line") (hbar : "bar" ≠ kind)
    (hline : "line" ≠ kind) : s.kind ≠ kind := by
  rcases hkind with hkind | hkind <;> rwa [hkind]

theorem query_of_axisQuery {field y : String} (hseries : s.seriesBy = some field)
    (hy : s.yFields = [y]) (haggregation : s.aggregation ≠ "NONE")
    (h : s.axisQuery path schemas conditions = .ok c) :
    ∃ raw series measure tables conditions,
      c.query = groupedQuery (if c.temporalX then bucket s.granularity raw else raw) series measure
        c.outputs tables conditions := by
  unfold axisQuery at h
  simp only [bind_eq_ok, pure_eq_ok, hseries, hy, if_neg (ofCapitals_ne_rowLevel haggregation)] at h
  obtain ⟨raw, -, seriesExprs, hseriesExprs, measures, hmeasures, hc⟩ := h
  obtain ⟨series, rfl⟩ := List.length_eq_one_iff.mp (length_of_mapM_eq_ok hseriesExprs)
  obtain ⟨measure, rfl⟩ := List.length_eq_one_iff.mp (length_of_mapM_eq_ok hmeasures)
  have hone : [series].length = s.seriesBy.toList.length := by rw [hseries]; rfl
  have houtputs := outputs_of_axisQuery (c := c) hone (by rw [← hc]) (by rw [← hc]) (by rw [← hc])
  refine ⟨raw, series, (Aggregate.ofCapitals s.aggregation).column measure, path.tables,
    conditions, ?_⟩
  rw [houtputs, ← hc]
  simp only [groupedQuery, List.cons_append, List.nil_append, List.map_cons, List.map_nil]

theorem split_of_compile (h : s.compile settings edges schemas constraints = .ok c)
    (hkind : s.kind = "bar" ∨ s.kind = "line") (hseries : s.seriesBy.isSome)
    (haggregation : s.aggregation ≠ "NONE") :
    ∃ seriesName measureName, s.Split c seriesName measureName := by
  obtain ⟨field, hfield⟩ := Option.isSome_iff_exists.mp hseries
  obtain ⟨haccepted, path, conditions, -, -, hcases⟩ := compile_eq_ok h
  have hkpi : s.kind ≠ "kpi" := kind_ne hkind (by decide) (by decide)
  have hscatter : s.kind ≠ "scatter" := kind_ne hkind (by decide) (by decide)
  have hnamed := named_of_compile h hkpi
  obtain ⟨y, hy⟩ : ∃ y, s.yFields = [y] := by
    have hmost := haccepted.oneMeasure hseries hkind
    have hleast := List.length_pos_iff.mpr haccepted.yFields
    exact List.length_eq_one_iff.mp (by omega)
  obtain ⟨measureName, hmeasureName⟩ : ∃ name, c.yAliases = [name] :=
    List.length_eq_one_iff.mp (by rw [hnamed.yAliases, hy]; rfl)
  obtain ⟨seriesName, hseriesName⟩ : ∃ name, c.seriesAlias = some name := by
    refine Option.isSome_iff_exists.mp ?_
    rw [hnamed.seriesAlias, hfield, bne_iff_ne.mpr hscatter]
    rfl
  have haxis : s.axisQuery path schemas conditions = .ok c := by
    rcases hcases with ⟨h, -⟩ | ⟨h, -⟩ | ⟨-, -, h⟩
    · exact absurd h hkpi
    · exact absurd h hscatter
    · exact h
  refine ⟨seriesName, measureName, hkind, haccepted.xField hkpi, hnamed,
    query_of_axisQuery hfield hy haggregation haxis, ?_, hseriesName, hmeasureName⟩
  rw [Compiled.outputs, hnamed.xAlias, hseriesName, hmeasureName]
  rfl

end Source

/-! ## Rows -/

/-- A row of the answer: the two values of its group, and the measure. -/
structure Group where
  x : Datum
  series : Datum
  measure : Datum

namespace Group

/-- The row under the output names. -/
def row (c : Compiled) (r : Group) : Record := c.outputs.zip [r.x, r.series, r.measure]

/-- Where a chart has the row: at its label, in the series of its text. -/
def place (s : Source) (c : Compiled) (r : Group) : String × String :=
  (xLabel s c r.x, r.series.label)

theorem exists_first {groups : List Group} {r : Group} (hr : r ∈ groups) :
    ∃ first ∈ groups, groups.find? (·.place s c == r.place s c) = some first ∧
      first.place s c = r.place s c := by
  have hsome : (groups.find? (·.place s c == r.place s c)).isSome = true :=
    List.find?_isSome.mpr ⟨r, hr, beq_self_eq_true _⟩
  obtain ⟨first, hfirst⟩ := Option.isSome_iff_exists.mp hsome
  have hplace := List.find?_some (p := fun r' : Group => r'.place s c == r.place s c) hfirst
  exact ⟨first, List.mem_of_find?_eq_some hfirst, hfirst, beq_iff_eq.mp hplace⟩

end Group

section

variable {seriesName measureName : String} (hsplit : s.Split c seriesName measureName)

include hsplit

theorem reads_row (r : Group) : c.Reads (s.request c) [r.x, r.series, r.measure] :=
  reads_of_named hsplit.named (by rw [hsplit.outputs]; rfl)

theorem place_row (r : Group) : (s.request c).place seriesName (r.row c) = r.place s c := by
  have hreads := reads_row hsplit r
  have hseries := hreads.seriesBy seriesName hsplit.seriesAlias
  have hscatter : s.kind ≠ "scatter" := Source.kind_ne hsplit.kind (by decide) (by decide)
  have hlabel := label_of_reads hsplit.named hsplit.xField hscatter hreads
  rw [Chart.Request.place, Group.row, hlabel, ← Option.some.inj hseries]
  rfl

theorem measure_row (r : Group) : Record.get (r.row c) measureName = r.measure := by
  have hmeasure := (reads_row hsplit r).yFields 0 measureName
    (by rw [Source.request, hsplit.yAliases]; rfl)
  rw [hsplit.seriesAlias] at hmeasure
  exact (Option.some.inj hmeasure).symm

/-! ## Cells -/

theorem spec_rows_eq_ok_iff {groups : List Group} {spec : Chart.Spec} :
    (s.request c).spec (groups.map (·.row c)) = .ok spec ↔
      (s.request c).Legible seriesName measureName (groups.map (·.row c)) ∧
        spec = (s.request c).pivotSpec seriesName measureName (groups.map (·.row c)) := by
  have hkind : (s.request c).kind = s.kind := hsplit.named.kind
  exact Chart.Request.spec_eq_ok_iff (by rw [hkind]; exact hsplit.kind) hsplit.yAliases
    hsplit.seriesAlias

theorem exists_spec {groups : List Group} (h : ∀ r ∈ groups, r.measure.inRange = true) :
    ∃ spec, (s.request c).spec (groups.map (·.row c)) = .ok spec := by
  refine ⟨_, (spec_rows_eq_ok_iff hsplit).mpr ⟨Chart.Request.legible_of_inRange ?_, rfl⟩⟩
  rw [List.forall_mem_map]
  intro r hr
  rw [measure_row hsplit]
  exact h r hr

/-- The number of the first row at a place is what the chart shows there, and nothing else. -/
theorem shows_place_iff {groups : List Group} {spec : Chart.Spec}
    (hspec : (s.request c).spec (groups.map (·.row c)) = .ok spec) {r first : Group}
    (hr : r ∈ groups) (hseries : r.series.label ≠ "")
    (hfirst : groups.find? (·.place s c == r.place s c) = some first) :
    ∃ x, first.measure.number = .ok x ∧
      ∀ v, Chart.Shows spec.toRecord (xLabel s c r.x) r.series.label v ↔ v = .float x := by
  obtain ⟨hlegible, rfl⟩ := (spec_rows_eq_ok_iff hsplit).mp hspec
  have hrow : r.row c ∈ groups.map (·.row c) := List.mem_map_of_mem hr
  have hplace : (s.request c).place seriesName (r.row c) = (xLabel s c r.x, r.series.label) :=
    place_row hsplit r
  have hcell : (s.request c).cell? seriesName (groups.map (·.row c)) (xLabel s c r.x)
      r.series.label = some (first.row c) := by
    rw [Chart.Request.cell?_eq_find?, List.find?_map]
    simp only [Function.comp_def, place_row hsplit]
    exact congrArg (Option.map (·.row c)) hfirst
  obtain ⟨x, hx⟩ := hlegible _ _ _ hseries (Chart.Request.cell?_eq_some_iff.mp hcell)
  refine ⟨x, by rwa [measure_row hsplit] at hx, fun v => ?_⟩
  rw [Chart.Request.shows_pivotSpec_iff, Chart.Request.amountAt, hcell, Option.bind_some, hx,
    and_iff_right (Chart.Request.mem_categories_of_place hrow hplace),
    and_iff_right (Chart.Request.mem_seriesNames_of_place hrow hplace hseries)]
  rfl

/-! ## Rows that a chart shows -/

/-- True when a chart shows the number of a row, and nothing else, where it has the row. -/
def AccountsFor (s : Source) (c : Compiled) (config : Record) (r : Group) : Prop :=
  ∃ x, r.measure.number = .ok x ∧
    ∀ v, Chart.Shows config (xLabel s c r.x) r.series.label v ↔ v = .float x

/-- A row is shown when it measures what the first row at its place does. -/
theorem accountsFor_iff_first {groups : List Group} {spec : Chart.Spec}
    (hspec : (s.request c).spec (groups.map (·.row c)) = .ok spec) {r first : Group}
    (hr : r ∈ groups) (hseries : r.series.label ≠ "")
    (hfirst : groups.find? (·.place s c == r.place s c) = some first) :
    AccountsFor s c spec.toRecord r ↔ first.measure.number = r.measure.number := by
  obtain ⟨x, hx, hshows⟩ := shows_place_iff hsplit hspec hr hseries hfirst
  rw [hx]
  constructor
  · rintro ⟨y, hy, hshows'⟩
    rw [hy, Datum.float.inj ((hshows' _).mp ((hshows _).mpr rfl))]
  · intro heq
    exact ⟨x, heq.symm, hshows⟩

theorem accountsFor_all_iff_place {groups : List Group} {spec : Chart.Spec}
    (hspec : (s.request c).spec (groups.map (·.row c)) = .ok spec) :
    (∀ r ∈ groups, r.series.label ≠ "" → AccountsFor s c spec.toRecord r) ↔
      ∀ a ∈ groups, ∀ b ∈ groups, a.series.label ≠ "" → a.place s c = b.place s c →
        a.measure.number = b.measure.number := by
  constructor
  · intro h a ha b hb hseries hplace
    have hlabel : a.series.label = b.series.label := congrArg Prod.snd hplace
    have hseries' : b.series.label ≠ "" := hlabel ▸ hseries
    obtain ⟨first, -, hfirst, -⟩ := Group.exists_first ha
    have hfound := (accountsFor_iff_first hsplit hspec ha hseries hfirst).mp (h a ha hseries)
    rw [hplace] at hfirst
    rw [← hfound,
      (accountsFor_iff_first hsplit hspec hb hseries' hfirst).mp (h b hb hseries')]
  · intro h r hr hseries
    obtain ⟨first, hmem, hfirst, hplace⟩ := Group.exists_first hr
    refine (accountsFor_iff_first hsplit hspec hr hseries hfirst).mpr ?_
    exact (h r hr first hmem hseries hplace.symm).symm

theorem accountsFor_first {groups : List Group} {spec : Chart.Spec}
    (hspec : (s.request c).spec (groups.map (·.row c)) = .ok spec) {r first : Group}
    (hseries : r.series.label ≠ "") (hmem : first ∈ groups)
    (hfirst : groups.find? (·.place s c == r.place s c) = some first)
    (hplace : first.place s c = r.place s c) : AccountsFor s c spec.toRecord first := by
  have hlabel : first.series.label = r.series.label := congrArg Prod.snd hplace
  rw [← hplace] at hfirst
  exact (accountsFor_iff_first hsplit hspec hmem (hlabel ▸ hseries) hfirst).mpr rfl

end

/-! ## Groups -/

/-- The moment that the statement groups by: points in time are cut down to the start of their month
or year. -/
def bucketStart (g : Granularity) (m : Moment) : Moment :=
  match g with
  | .day => m
  | .month | .year => .ofDate (m.date.firstDay g)

/-- The rows that a statement can give which groups by X and by the field of the series: they differ
in these two, and where X holds dates it is null or a point in time cut down to its unit. -/
structure Grouped (s : Source) (c : Compiled) (groups : List Group) : Prop where
  different : (groups.map fun r => (r.x.key, r.series.key)).Nodup
  xType : ∀ a ∈ groups, ∀ b ∈ groups, Datum.OfOneType a.x b.x
  seriesType : ∀ a ∈ groups, ∀ b ∈ groups, Datum.OfOneType a.series b.series
  dated : c.temporalX = true → ∀ r ∈ groups, r.x = .null ∨
    ∃ m : Moment, m.offset = none ∧ r.x = .text ((bucketStart s.granularity m).iso "T")

theorem offset_bucketStart (g : Granularity) {m : Moment} (h : m.offset = none) :
    (bucketStart g m).offset = none := by
  cases g
  · exact h
  · rfl
  · rfl

/-- Two values of X that the statement tells apart and the chart does not: points in time of one
day, which are not cut down, and null and the empty text. -/
inductive Blurred (s : Source) (c : Compiled) : Datum → Datum → Prop
  | day {m n : Moment} (htemporal : c.temporalX = true) (hday : s.granularity = .day)
      (hm : m.offset = none) (hn : n.offset = none) (hdate : m.date = n.date) :
      Blurred s c (.text (m.iso "T")) (.text (n.iso "T"))
  | nullBefore (hplain : c.temporalX = false) : Blurred s c .null (.text "")
  | nullAfter (hplain : c.temporalX = false) : Blurred s c (.text "") .null

theorem Blurred.xLabel_eq {v w : Datum} (h : Blurred s c v w) : xLabel s c v = xLabel s c w := by
  cases h with
  | day htemporal _ _ _ hdate =>
    rw [xLabel, xLabel, if_pos htemporal, if_pos htemporal, dateLabel_iso, dateLabel_iso, hdate]
  | nullBefore hplain | nullAfter hplain =>
    simp only [xLabel, hplain]
    rfl

/-- Points in time are blurred by day only. -/
theorem Blurred.granularity {v w : Datum} (h : Blurred s c v w) (htemporal : c.temporalX = true) :
    s.granularity = .day := by
  cases h with
  | day _ hday => exact hday
  | nullBefore hplain | nullAfter hplain => simp [htemporal] at hplain

namespace Grouped

variable {groups : List Group} {a b : Group}

theorem eq_of_key_eq (h : Grouped s c groups) (ha : a ∈ groups) (hb : b ∈ groups)
    (hx : a.x.key = b.x.key) (hseries : a.series.key = b.series.key) : a = b :=
  List.inj_on_of_nodup_map h.different ha hb (Prod.ext hx hseries)

/-- A value of X that holds dates is null or the start of a bucket. -/
theorem label_cases (h : Grouped s c groups) (ha : a ∈ groups) (htemporal : c.temporalX = true) :
    a.x = .null ∧ xLabel s c a.x = "" ∨ ∃ m : Moment, m.offset = none ∧
      a.x = .text ((bucketStart s.granularity m).iso "T") ∧
      xLabel s c a.x = bucketLabel s.granularity (bucketStart s.granularity m).date := by
  rw [xLabel, if_pos htemporal]
  rcases h.dated htemporal a ha with hnull | ⟨m, hm, hx⟩
  · rw [hnull]
    exact .inl ⟨rfl, dateLabel_null _⟩
  · rw [hx, dateLabel_iso]
    exact .inr ⟨m, hm, rfl, rfl⟩

theorem xLabel_eq_of_key_eq (h : Grouped s c groups) (ha : a ∈ groups) (hb : b ∈ groups)
    (hkey : a.x.key = b.x.key) : xLabel s c a.x = xLabel s c b.x := by
  obtain ⟨hkind, hdisplay⟩ := Datum.key_eq_iff.mp hkey
  cases htemporal : c.temporalX with
  | false => simpa [xLabel, htemporal] using Datum.label_eq_of_key_eq hkey
  | true =>
    refine congrArg (xLabel s c) ?_
    rcases h.dated htemporal a ha with hx | ⟨m, -, hx⟩ <;>
      rcases h.dated htemporal b hb with hx' | ⟨n, -, hx'⟩
    · rw [hx, hx']
    · simp [hx, hx', Datum.kindName] at hkind
    · simp [hx, hx', Datum.kindName] at hkind
    · rw [hx, hx'] at hdisplay ⊢
      exact congrArg Datum.text hdisplay

/-- Plain values of X with one label have one key, unless one is null and the other empty. -/
theorem key_eq_or_blank (h : Grouped s c groups) (ha : a ∈ groups) (hb : b ∈ groups)
    (hplain : c.temporalX = false) (hlabel : xLabel s c a.x = xLabel s c b.x) :
    a.x.key = b.x.key ∨ Blurred s c a.x b.x := by
  replace hlabel : a.x.label = b.x.label := by simpa [xLabel, hplain] using hlabel
  by_cases hempty : a.x.label = ""
  · rcases Datum.label_eq_empty_iff.mp hempty with hx | hx <;>
      rcases Datum.label_eq_empty_iff.mp (hlabel.symm.trans hempty) with hx' | hx' <;>
      rw [hx, hx']
    · exact .inl rfl
    · exact .inr (.nullBefore hplain)
    · exact .inr (.nullAfter hplain)
    · exact .inl rfl
  · exact .inl (Datum.key_eq_of_label_eq (h.xType a ha b hb) hempty hlabel)

/-- Points in time with one label have one key, unless they are of one day. -/
theorem key_eq_or_day (h : Grouped s c groups) (ha : a ∈ groups) (hb : b ∈ groups)
    (htemporal : c.temporalX = true) (hlabel : xLabel s c a.x = xLabel s c b.x) :
    a.x.key = b.x.key ∨ Blurred s c a.x b.x := by
  rcases h.label_cases ha htemporal with ⟨hx, hxLabel⟩ | ⟨m, hm, hx, hxLabel⟩ <;>
    rcases h.label_cases hb htemporal with ⟨hx', hxLabel'⟩ | ⟨n, hn, hx', hxLabel'⟩
  · exact .inl (by rw [hx, hx'])
  · rw [hxLabel, hxLabel'] at hlabel
    exact absurd hlabel.symm (bucketLabel_ne_empty _ _)
  · rw [hxLabel, hxLabel'] at hlabel
    exact absurd hlabel (bucketLabel_ne_empty _ _)
  · rw [hxLabel, hxLabel', bucketLabel_eq_iff] at hlabel
    rw [hx, hx']
    cases hg : s.granularity with
    | day =>
      rw [hg] at hlabel
      exact .inr (.day htemporal hg hm hn hlabel)
    | month | year =>
      -- both are the start of the unit that the label shows
      simp only [hg, bucketStart, Moment.ofDate, Date.firstDay_firstDay] at hlabel ⊢
      exact .inl (by rw [hlabel])

/-- Values of X with one label have one key, or else the chart blurs them. -/
theorem key_eq_or_blurred (h : Grouped s c groups) (ha : a ∈ groups) (hb : b ∈ groups)
    (hlabel : xLabel s c a.x = xLabel s c b.x) : a.x.key = b.x.key ∨ Blurred s c a.x b.x := by
  cases htemporal : c.temporalX with
  | false => exact h.key_eq_or_blank ha hb htemporal hlabel
  | true => exact h.key_eq_or_day ha hb htemporal hlabel

theorem place_eq_iff (h : Grouped s c groups) (ha : a ∈ groups) (hb : b ∈ groups)
    (hseries : a.series.label ≠ "") :
    a.place s c = b.place s c ↔
      a.series.key = b.series.key ∧ (a.x.key = b.x.key ∨ Blurred s c a.x b.x) := by
  rw [Group.place, Group.place, Prod.mk.injEq]
  constructor
  · rintro ⟨hx, hlabel⟩
    exact ⟨Datum.key_eq_of_label_eq (h.seriesType a ha b hb) hseries hlabel,
      h.key_eq_or_blurred ha hb hx⟩
  · rintro ⟨hkey, hx | hx⟩
    · exact ⟨h.xLabel_eq_of_key_eq ha hb hx, Datum.label_eq_of_key_eq hkey⟩
    · exact ⟨hx.xLabel_eq, Datum.label_eq_of_key_eq hkey⟩

/-- All rows are shown when those that the chart blurs measure the same. -/
theorem accountsFor_all_iff (h : Grouped s c groups) {seriesName measureName : String}
    (hsplit : s.Split c seriesName measureName) {spec : Chart.Spec}
    (hspec : (s.request c).spec (groups.map (·.row c)) = .ok spec) :
    (∀ r ∈ groups, r.series.label ≠ "" → AccountsFor s c spec.toRecord r) ↔
      ∀ a ∈ groups, ∀ b ∈ groups, a.series.label ≠ "" → a.series.key = b.series.key →
        Blurred s c a.x b.x → a.measure.number = b.measure.number := by
  rw [accountsFor_all_iff_place hsplit hspec]
  refine forall₂_congr fun a ha => forall₂_congr fun b hb => forall_congr' fun hlabel => ?_
  rw [h.place_eq_iff ha hb hlabel]
  constructor
  · exact fun hsame hkey hblurred => hsame ⟨hkey, .inr hblurred⟩
  · rintro hsame ⟨hkey, hx | hblurred⟩
    · rw [h.eq_of_key_eq ha hb hx hkey]
    · exact hsame hkey hblurred

end Grouped

/-! ## The result -/

/-- A measure that is split into series is grouped by the expression of X, cut down to its unit
where X holds dates, and by the field of the series.  There is a chart of the rows unless a number
is out of range, and it shows a row where it belongs when that measures what the first row there
does.  Of the rows that such a statement can give all are shown when blurred ones measure the same;
by month and by year none are blurred. -/
theorem accountsFor_grouped (h : s.compile settings edges schemas constraints = .ok c)
    (hkind : s.kind = "bar" ∨ s.kind = "line") (hseries : s.seriesBy.isSome)
    (haggregation : s.aggregation ≠ "NONE") :
    (∃ raw series measure tables conditions,
      c.query = groupedQuery (if c.temporalX then bucket s.granularity raw else raw) series measure
        c.outputs tables conditions) ∧
    ∀ groups : List Group,
      ((∀ r ∈ groups, r.measure.inRange = true) →
        ∃ spec, (s.request c).spec (groups.map (·.row c)) = .ok spec) ∧
      ∀ spec, (s.request c).spec (groups.map (·.row c)) = .ok spec →
        (∀ r ∈ groups, r.series.label ≠ "" →
          ∃ first, groups.find? (·.place s c == r.place s c) = some first ∧
            AccountsFor s c spec.toRecord first ∧
            (AccountsFor s c spec.toRecord r ↔ first.measure.number = r.measure.number)) ∧
        (Grouped s c groups →
          ((∀ r ∈ groups, r.series.label ≠ "" → AccountsFor s c spec.toRecord r) ↔
            ∀ a ∈ groups, ∀ b ∈ groups, a.series.label ≠ "" → a.series.key = b.series.key →
              Blurred s c a.x b.x → a.measure.number = b.measure.number) ∧
          (c.temporalX = true → s.granularity ≠ .day →
            ∀ r ∈ groups, r.series.label ≠ "" → AccountsFor s c spec.toRecord r)) := by
  obtain ⟨seriesName, measureName, hsplit⟩ :=
    Source.split_of_compile h hkind hseries haggregation
  refine ⟨hsplit.query, fun groups => ⟨exists_spec hsplit, fun spec hspec =>
    ⟨fun r hr hlabel => ?_, fun hgroups => ?_⟩⟩⟩
  · obtain ⟨first, hmem, hfirst, hplace⟩ := Group.exists_first hr
    exact ⟨first, hfirst, accountsFor_first hsplit hspec hlabel hmem hfirst hplace,
      accountsFor_iff_first hsplit hspec hr hlabel hfirst⟩
  · have hall := hgroups.accountsFor_all_iff hsplit hspec
    refine ⟨hall, fun htemporal hday => hall.mpr ?_⟩
    exact fun a _ b _ _ _ hblurred => absurd (hblurred.granularity htemporal) hday

/-- The amounts of orders by region, over the times at which they were placed. -/
def ordersBy (granularity : String) : Source where
  tableName := "orders"
  xAxis := some "placed"
  yAxis := some (.one "amount")
  chartType := "bar"
  options := { Options.none with seriesBy := some "region", timeGranularity := some granularity }

/-- The columns of orders. -/
def orderColumns : List Schema.Table :=
  [⟨"orders", [⟨"placed", "TIMESTAMP"⟩, ⟨"region", "VARCHAR"⟩, ⟨"amount", "DOUBLE"⟩]⟩]

theorem compile_ordersBy (granularity : String)
    (h : ((ordersBy granularity).compile {} [] orderColumns []).toOption.map Compiled.temporalX =
      some true) :
    ∃ c, (ordersBy granularity).compile {} [] orderColumns [] = .ok c ∧ c.temporalX = true := by
  obtain ⟨c, hc, htemporal⟩ := Option.map_eq_some_iff.mp h
  exact ⟨c, toOption_eq_some.mp hc, htemporal⟩

/-- An order of the north. -/
def northern (g : Granularity) (m : Moment) (amount : Float) : Group :=
  ⟨.text ((bucketStart g m).iso "T"), .text "North", .float amount⟩

theorem grouped_northern {g : Granularity} {m n : Moment} {x y : Float} (hg : s.granularity = g)
    (hm : m.offset = none) (hn : n.offset = none) (hne : bucketStart g m ≠ bucketStart g n) :
    Grouped s c [northern g m x, northern g n y] := by
  have hiso : (bucketStart g m).iso "T" ≠ (bucketStart g n).iso "T" := fun h =>
    hne ((Moment.iso_inj (offset_bucketStart g hm) (offset_bucketStart g hn)).mp h)
  constructor
  · simpa [northern, Datum.key_eq_iff, Datum.kindName, Datum.display] using hiso
  · simp [northern, Datum.OfOneType, Datum.kindName]
  · simp [northern, Datum.OfOneType, Datum.kindName]
  · rintro - r hr
    subst hg
    rcases List.mem_pair.mp hr with rfl | rfl
    · exact .inr ⟨m, hm, rfl⟩
    · exact .inr ⟨n, hn, rfl⟩

/-- The fifth of March 2024, at ten. -/
def fifthAtTen : Moment := ⟨⟨2024, 3, 5, by decide⟩, ⟨10, 0, 0, 0, by decide⟩, none⟩

/-- The fifth of March 2024, at eleven. -/
def fifthAtEleven : Moment := ⟨⟨2024, 3, 5, by decide⟩, ⟨11, 0, 0, 0, by decide⟩, none⟩

/-- The first of April 2024, at eleven. -/
def aprilAtEleven : Moment := ⟨⟨2024, 4, 1, by decide⟩, ⟨11, 0, 0, 0, by decide⟩, none⟩

/-- Orders of two months, by month. -/
def northernByMonth : List Group :=
  [northern .month fifthAtTen 1.0, northern .month aprilAtEleven 2.0]

/-- Orders of one day, by day. -/
def northernOfDay : List Group :=
  [northern .day fifthAtTen 1.0, northern .day fifthAtEleven 2.0]

theorem accountsFor_grouped_months :
    ∃ c spec, (ordersBy "month").compile {} [] orderColumns [] = .ok c ∧
      ((ordersBy "month").kind = "bar" ∨ (ordersBy "month").kind = "line") ∧
      (ordersBy "month").seriesBy.isSome ∧ (ordersBy "month").aggregation ≠ "NONE" ∧
      Grouped (ordersBy "month") c northernByMonth ∧
      ((ordersBy "month").request c).spec (northernByMonth.map (·.row c)) = .ok spec ∧
      ∀ r ∈ northernByMonth, AccountsFor (ordersBy "month") c spec.toRecord r := by
  obtain ⟨c, hc, htemporal⟩ := compile_ordersBy "month" (by decide)
  have hkind : (ordersBy "month").kind = "bar" := by decide
  have hseries : (ordersBy "month").seriesBy.isSome := by decide
  have haggregation : (ordersBy "month").aggregation ≠ "NONE" := by decide
  have hgrouped : Grouped (ordersBy "month") c northernByMonth :=
    grouped_northern (by decide) rfl rfl (by decide)
  obtain ⟨-, h⟩ := accountsFor_grouped hc (.inl hkind) hseries haggregation
  obtain ⟨hexists, hshown⟩ := h northernByMonth
  obtain ⟨spec, hspec⟩ := hexists (by decide)
  obtain ⟨-, hmonths⟩ := (hshown spec hspec).2 hgrouped
  have hlabel : ∀ r ∈ northernByMonth, r.series.label ≠ "" := by decide
  exact ⟨c, spec, hc, .inl hkind, hseries, haggregation, hgrouped, hspec,
    fun r hr => hmonths htemporal (by decide) r hr (hlabel r hr)⟩

/-- By day, the second of two orders of one day and region is not shown. -/
theorem not_accountsFor_day :
    ∃ c spec, (ordersBy "day").compile {} [] orderColumns [] = .ok c ∧
      (ordersBy "day").kind = "bar" ∧ (ordersBy "day").seriesBy.isSome ∧
      (ordersBy "day").aggregation ≠ "NONE" ∧ Grouped (ordersBy "day") c northernOfDay ∧
      ((ordersBy "day").request c).spec (northernOfDay.map (·.row c)) = .ok spec ∧
      ∃ r ∈ northernOfDay, r.series.label ≠ "" ∧
        ¬AccountsFor (ordersBy "day") c spec.toRecord r := by
  obtain ⟨c, hc, htemporal⟩ := compile_ordersBy "day" (by decide)
  have hkind : (ordersBy "day").kind = "bar" := by decide
  have hseries : (ordersBy "day").seriesBy.isSome := by decide
  have haggregation : (ordersBy "day").aggregation ≠ "NONE" := by decide
  have hday : (ordersBy "day").granularity = .day := by decide
  have hgrouped : Grouped (ordersBy "day") c northernOfDay :=
    grouped_northern hday rfl rfl (by decide)
  obtain ⟨seriesName, measureName, hsplit⟩ :=
    Source.split_of_compile hc (.inl hkind) hseries haggregation
  have hrange : ∀ r ∈ northernOfDay, r.measure.inRange = true := by decide
  obtain ⟨spec, hspec⟩ := exists_spec hsplit hrange
  have hblurred : Blurred (ordersBy "day") c (northern .day fifthAtTen 1.0).x
      (northern .day fifthAtEleven 2.0).x := .day htemporal hday rfl rfl rfl
  have hplace : (northern .day fifthAtTen 1.0).place (ordersBy "day") c =
      (northern .day fifthAtEleven 2.0).place (ordersBy "day") c :=
    congrArg (·, "North") hblurred.xLabel_eq
  have hfirst : northernOfDay.find? (·.place (ordersBy "day") c ==
      (northern .day fifthAtEleven 2.0).place (ordersBy "day") c) =
      some (northern .day fifthAtTen 1.0) :=
    List.find?_cons_of_pos (beq_iff_eq.mpr hplace)
  refine ⟨c, spec, hc, hkind, hseries, haggregation, hgrouped, hspec,
    northern .day fifthAtEleven 2.0, .tail _ (.head _), by decide, ?_⟩
  rw [accountsFor_iff_first hsplit hspec (.tail _ (.head _)) (by decide) hfirst]
  intro hnumber
  have hequal : (1.0 : Float) = 2.0 := Except.ok.inj hnumber
  exact absurd hequal (by decide)

end ChartBoard.Widget
