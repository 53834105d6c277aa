import ChartBoard.Chart.Spec
import ChartBoard.Proofs.Datum.Range
import ChartBoard.Proofs.Datum.Selection
import ChartBoard.Proofs.Result

/-!
# Measures split into series

A chart of bars or lines can split its measure by another field.  Every label of a row is then a
category, every text of the other field a series, and a cell shows the first row that has both.

* `Request.place` is where a row belongs, `Request.FirstAt` the first row of a place.
* `Request.IsPivot` says what the description of such a chart is, and `Shows` reads a cell off it.
* `Request.pivot_eq_ok_iff` says when there is such a chart, and which.
* `Request.spec_splits` is the result, with what further rows change: nothing if their places are
  taken, and else no cell that a row was found for.
-/

namespace ChartBoard.Chart

open Datum Result

/-- True when a chart shows a value for a category in a series. -/
def Shows (config : Record) (category name : String) (v : Datum) : Prop :=
  ∃ (i : Nat) (labels series values : List Datum) (serie : Datum),
    (Record.get config "xAxis").get "data" = .list labels ∧ labels[i]? = some (.text category) ∧
    Record.get config "series" = .list series ∧ serie ∈ series ∧
    serie.get "name" = .text name ∧ serie.get "data" = .list values ∧ values[i]? = some v

namespace Request

variable {q : Request} {field y x s : String} {rows more : List Record} {row : Record}

/-! ## Places -/

/-- Where a row belongs: its label, and its text in the field that splits the rows. -/
def place (q : Request) (field : String) (row : Record) : String × String :=
  (q.label row, (Record.get row field).label)

/-- The first row of a place. -/
def FirstAt (q : Request) (field : String) (rows : List Record) (p : String × String)
    (row : Record) : Prop :=
  q.place field row = p ∧
    ∃ before after, rows = before ++ row :: after ∧ ∀ r ∈ before, q.place field r ≠ p

theorem cell?_eq_find? : q.cell? field rows x s = rows.find? (q.place field · == (x, s)) := rfl

theorem cell?_eq_some_iff :
    q.cell? field rows x s = some row ↔ q.FirstAt field rows (x, s) row := by
  simp only [cell?_eq_find?, List.find?_eq_some_iff_append, FirstAt, beq_iff_eq, Bool.not_eq_true',
    beq_eq_false_iff_ne]

theorem cell?_eq_none_iff :
    q.cell? field rows x s = none ↔ ∀ row ∈ rows, q.place field row ≠ (x, s) := by
  simp [cell?_eq_find?]

theorem cell?_append :
    q.cell? field (rows ++ more) x s = (q.cell? field rows x s).or (q.cell? field more x s) :=
  List.find?_append

theorem mem_categories_of_place (hrow : row ∈ rows) (hplace : q.place field row = (x, s)) :
    x ∈ distinctTexts (rows.map q.label) :=
  mem_distinctTexts.mpr (List.mem_map.mpr ⟨row, hrow, congrArg Prod.fst hplace⟩)

theorem mem_seriesNames_of_place (hrow : row ∈ rows) (hplace : q.place field row = (x, s))
    (hs : s ≠ "") : s ∈ seriesNames field rows := by
  have hmem : s ∈ rows.map fun row => (Record.get row field).label :=
    List.mem_map.mpr ⟨row, hrow, congrArg Prod.snd hplace⟩
  simpa [seriesNames, List.mem_filter, mem_distinctTexts, hs] using hmem

theorem FirstAt.mem {p : String × String} (h : q.FirstAt field rows p row) : row ∈ rows := by
  obtain ⟨-, before, after, rfl, -⟩ := h
  simp

theorem ne_empty_of_mem_seriesNames (h : s ∈ seriesNames field rows) : s ≠ "" := by
  simpa using (List.mem_filter.mp h).2

/-! ## Cells -/

/-- What a chart shows at a place: the number of the first row there, or the integer zero where
there is none. -/
inductive CellValue (q : Request) (field y : String) (rows : List Record) (p : String × String) :
    Datum → Prop
  | measured {row : Record} {v : Float} (hrow : q.FirstAt field rows p row)
      (hv : (Record.get row y).number = .ok v) : CellValue q field y rows p (.float v)
  | missing (h : ∀ row ∈ rows, q.place field row ≠ p) : CellValue q field y rows p (.int 0)

/-- The amount at a place, if it can be read. -/
def amountAt (q : Request) (field y : String) (rows : List Record) (x s : String) : Amount :=
  (q.cell? field rows x s).bind fun row => (Record.get row y).number.toOption

/-- True when all the cells of the measure that are shown can be read. -/
def Legible (q : Request) (field y : String) (rows : List Record) : Prop :=
  ∀ x s row, s ≠ "" → q.FirstAt field rows (x, s) row → ∃ v, (Record.get row y).number = .ok v

theorem Legible.cellValue (h : q.Legible field y rows) (hs : s ≠ "") :
    q.CellValue field y rows (x, s) (q.amountAt field y rows x s).toDatum := by
  cases hcell : q.cell? field rows x s with
  | none =>
    rw [amountAt, hcell]
    exact .missing (cell?_eq_none_iff.mp hcell)
  | some row =>
    have hrow := cell?_eq_some_iff.mp hcell
    obtain ⟨v, hv⟩ := h x s row hs hrow
    rw [amountAt, hcell, Option.bind_some, hv]
    exact .measured hrow hv

/-- The amount at a place, or why it cannot be read. -/
def readAmount (q : Request) (field : String) (rows : List Record) (x s : String) :
    Except Fault Amount :=
  match q.cell? field rows x s with
  | some row => do return some (← numberIn (← q.measure) row)
  | none => .ok none

theorem readAmount_of_firstAt (hy : q.yFields = [y]) (h : q.FirstAt field rows (x, s) row) :
    q.readAmount field rows x s = (Record.get row y).number.map some := by
  rw [readAmount, cell?_eq_some_iff.mpr h, measure, hy]
  cases hv : (Record.get row y).number <;> simp [numberIn, hv, bind, Except.bind] <;> rfl

theorem Legible.readAmount_eq (h : q.Legible field y rows) (hy : q.yFields = [y]) (hs : s ≠ "") :
    q.readAmount field rows x s = .ok (q.amountAt field y rows x s) := by
  cases hcell : q.cell? field rows x s with
  | none => simp [readAmount, amountAt, hcell]
  | some row =>
    have hrow := cell?_eq_some_iff.mp hcell
    obtain ⟨v, hv⟩ := h x s row hs hrow
    rw [readAmount_of_firstAt hy hrow, amountAt, hcell, Option.bind_some, hv]
    rfl

/-- The series under a name. -/
def seriesAt (q : Request) (field y : String) (rows : List Record) (s : String) : Series :=
  ⟨.text s, (distinctTexts (rows.map q.label)).map fun x => q.amountAt field y rows x s⟩

/-- There is such a chart when all its cells can be read, and it shows them. -/
theorem pivot_eq_ok_iff (hy : q.yFields = [y]) {p : Plot} :
    q.pivot field rows = .ok p ↔ q.Legible field y rows ∧
      p = .axis q.kind (distinctTexts (rows.map q.label)) q.xName q.yName
        ((seriesNames field rows).map (q.seriesAt field y rows)) := by
  have hpivot : q.pivot field rows = (do
      let series ← (seriesNames field rows).mapM fun s => do
        let amounts ← (distinctTexts (rows.map q.label)).mapM fun x => q.readAmount field rows x s
        return Series.mk (.text s) amounts
      return .axis q.kind (distinctTexts (rows.map q.label)) q.xName q.yName series) := rfl
  have hread (h : q.Legible field y rows) : (seriesNames field rows).mapM (fun s => do
        let amounts ← (distinctTexts (rows.map q.label)).mapM fun x => q.readAmount field rows x s
        return Series.mk (.text s) amounts) =
      .ok ((seriesNames field rows).map (q.seriesAt field y rows)) :=
    mapM_eq_map fun s hs => by
      rw [mapM_eq_map fun x _ => h.readAmount_eq hy (ne_empty_of_mem_seriesNames hs)]
      rfl
  rw [hpivot]
  constructor
  · intro h
    obtain ⟨series, hseries, h⟩ := bind_eq_ok.mp h
    have hlegible : q.Legible field y rows := fun x s row hs hrow => by
      obtain ⟨serie, hserie⟩ := exists_ok_of_mapM_eq_ok hseries
        (mem_seriesNames_of_place hrow.mem hrow.1 hs)
      obtain ⟨amounts, hamounts, -⟩ := bind_eq_ok.mp hserie
      obtain ⟨amount, hamount⟩ := exists_ok_of_mapM_eq_ok hamounts
        (mem_categories_of_place hrow.mem hrow.1)
      rw [readAmount_of_firstAt hy hrow] at hamount
      obtain ⟨v, hv, -⟩ := map_eq_ok.mp hamount
      exact ⟨v, hv⟩
    obtain rfl := Except.ok.inj (hseries.symm.trans (hread hlegible))
    exact ⟨hlegible, (pure_eq_ok.mp h).symm⟩
  · rintro ⟨h, rfl⟩
    rw [hread h]
    rfl

/-- Nothing but a number beyond the range of doubles keeps such a chart from its rows. -/
theorem ranged_pivot (hy : q.yFields = [y]) :
    Ranged (q.Legible field y rows) (q.pivot field rows) := by
  have hamount (x s : String) (hs : s ∈ seriesNames field rows) :
      Ranged (q.Legible field y rows) (q.readAmount field rows x s) := by
    refine ⟨fun h => ⟨_, h.readAmount_eq hy (ne_empty_of_mem_seriesNames hs)⟩, fun fault h => ?_⟩
    cases hcell : q.cell? field rows x s with
    | none => simp [readAmount, hcell] at h
    | some row =>
      rw [readAmount_of_firstAt hy (cell?_eq_some_iff.mp hcell)] at h
      exact ((ranged_number (Record.get row y)).map some).2 fault h
  have hserie (s : String) (hs : s ∈ seriesNames field rows) :
      Ranged (q.Legible field y rows) (do
        let amounts ← (distinctTexts (rows.map q.label)).mapM fun x => q.readAmount field rows x s
        return Series.mk (.text s) amounts) :=
    (ranged_mapM fun x _ => hamount x s hs).bind fun _ _ => ranged_ok _
  exact (ranged_mapM hserie).bind fun _ _ => ranged_ok _

theorem legible_of_inRange (h : ∀ row ∈ rows, (Record.get row y).inRange = true) :
    q.Legible field y rows :=
  fun _ _ row _ hrow => (ranged_number (Record.get row y)).1 (h row hrow.mem)

/-! ## Charts -/

/-- The description of a chart whose measure `y` is split by `field`: categories and names of series
in the order in which the rows have them, and in every series a value for each category. -/
structure IsPivot (q : Request) (field y : String) (rows : List Record) (config : Record)
    (categories names : List String) (series : List Datum) : Prop where
  axis : (Record.get config "xAxis").get "data" = .texts categories
  categoriesSeen : FirstSeen (fun _ => True) (rows.map q.label) categories
  described : Record.get config "series" = .list series
  named : series.map (·.get "name") = names.map .text
  namesSeen : FirstSeen (· ≠ "") (rows.map fun row => (Record.get row field).label) names
  values : ∀ serie ∈ series, ∃ values, serie.get "data" = .list values ∧
    values.length = categories.length
  cells : ∀ x s v, Shows config x s v → q.CellValue field y rows (x, s) v

/-- The chart of rows whose cells can all be read. -/
def pivotSpec (q : Request) (field y : String) (rows : List Record) : Spec :=
  ⟨q.title, .axis q.kind (distinctTexts (rows.map q.label)) q.xName q.yName
    ((seriesNames field rows).map (q.seriesAt field y rows))⟩

theorem shows_pivotSpec_iff {v : Datum} :
    Shows (q.pivotSpec field y rows).toRecord x s v ↔
      x ∈ distinctTexts (rows.map q.label) ∧ s ∈ seriesNames field rows ∧
        v = (q.amountAt field y rows x s).toDatum := by
  have haxis : (Record.get (q.pivotSpec field y rows).toRecord "xAxis").get "data" =
      .list ((distinctTexts (rows.map q.label)).map .text) := rfl
  have hdescribed : Record.get (q.pivotSpec field y rows).toRecord "series" =
      .list (((seriesNames field rows).map (q.seriesAt field y rows)).map (·.toDatum q.kind)) := rfl
  have hname (s : String) : ((q.seriesAt field y rows s).toDatum q.kind).get "name" = .text s := rfl
  have hdata (s : String) : ((q.seriesAt field y rows s).toDatum q.kind).get "data" =
      .list ((distinctTexts (rows.map q.label)).map fun x =>
        (q.amountAt field y rows x s).toDatum) := congrArg Datum.list List.map_map
  constructor
  · rintro ⟨i, labels, series, values, serie, hlabels, hi, hseries, hserie, hs, hvalues, hv⟩
    obtain rfl := Datum.list.inj (haxis.symm.trans hlabels)
    obtain rfl := Datum.list.inj (hdescribed.symm.trans hseries)
    simp only [List.map_map, List.mem_map, Function.comp_apply] at hserie
    obtain ⟨s', hs', rfl⟩ := hserie
    obtain rfl := Datum.text.inj ((hname s').symm.trans hs)
    obtain rfl := Datum.list.inj ((hdata s').symm.trans hvalues)
    have hx : (distinctTexts (rows.map q.label))[i]? = some x := by simpa using hi
    refine ⟨List.mem_of_getElem? hx, hs', ?_⟩
    rw [List.getElem?_map, hx] at hv
    exact (Option.some.inj hv).symm
  · rintro ⟨hx, hs, rfl⟩
    obtain ⟨i, hi⟩ := List.mem_iff_getElem?.mp hx
    refine ⟨i, _, _, _, _, haxis, ?_, hdescribed, List.mem_map_of_mem (List.mem_map_of_mem hs),
      hname s, hdata s, ?_⟩
    · rw [List.getElem?_map, hi]
      rfl
    · rw [List.getElem?_map, hi]
      rfl

theorem isPivot_pivotSpec (h : q.Legible field y rows) :
    q.IsPivot field y rows (q.pivotSpec field y rows).toRecord (distinctTexts (rows.map q.label))
      (seriesNames field rows)
      ((seriesNames field rows).map fun s => (q.seriesAt field y rows s).toDatum q.kind) where
  axis := rfl
  categoriesSeen := firstSeen_distinctTexts _
  described := congrArg Datum.list List.map_map
  named := by
    rw [List.map_map]
    rfl
  namesSeen := (firstSeen_distinctTexts _).filter (by simp)
  values serie hserie := by
    obtain ⟨s, -, rfl⟩ := List.mem_map.mp hserie
    exact ⟨_, rfl, by simp [seriesAt]⟩
  cells x s v hv := by
    obtain ⟨-, hs, rfl⟩ := shows_pivotSpec_iff.mp hv
    exact h.cellValue (ne_empty_of_mem_seriesNames hs)

section

variable (hkind : q.kind = "bar" ∨ q.kind = "line") (hy : q.yFields = [y])
  (hseries : q.seriesBy = some field)

include hkind hy hseries

theorem spec_eq_pivot : q.spec rows = (q.pivot field rows).map (Spec.mk q.title) := by
  have hvalid : q.validate = .ok () := by simp [validate, hy]
  have hplot : q.plot rows = q.pivot field rows := by
    rcases hkind with hkind | hkind <;> simp [plot, hkind, hseries]
  rw [spec, hvalid, hplot]
  cases q.pivot field rows <;> rfl

theorem spec_eq_ok_iff {r : Spec} :
    q.spec rows = .ok r ↔ q.Legible field y rows ∧ r = q.pivotSpec field y rows := by
  rw [spec_eq_pivot hkind hy hseries, map_eq_ok]
  simp only [pivot_eq_ok_iff hy]
  constructor
  · rintro ⟨p, ⟨h, rfl⟩, rfl⟩
    exact ⟨h, rfl⟩
  · rintro ⟨h, rfl⟩
    exact ⟨_, ⟨h, rfl⟩, rfl⟩

end

/-! ## Further rows -/

/-- The rows whose places are taken are never looked at. -/
theorem pivot_append_of_taken
    (h : ∀ row ∈ more, ∃ row' ∈ rows, q.place field row' = q.place field row) :
    q.pivot field (rows ++ more) = q.pivot field rows := by
  have hcategories : distinctTexts ((rows ++ more).map q.label) =
      distinctTexts (rows.map q.label) := by
    rw [List.map_append]
    refine distinctTexts_append_of_forall_mem fun x hx => ?_
    obtain ⟨row, hrow, rfl⟩ := List.mem_map.mp hx
    obtain ⟨row', hrow', hplace⟩ := h row hrow
    exact List.mem_map.mpr ⟨row', hrow', congrArg Prod.fst hplace⟩
  have hnames : seriesNames field (rows ++ more) = seriesNames field rows := by
    rw [seriesNames, List.map_append, distinctTexts_append_of_forall_mem]
    · rfl
    · intro s hs
      obtain ⟨row, hrow, rfl⟩ := List.mem_map.mp hs
      obtain ⟨row', hrow', hplace⟩ := h row hrow
      exact List.mem_map.mpr ⟨row', hrow', congrArg Prod.snd hplace⟩
  have hcell (x s : String) : q.cell? field (rows ++ more) x s = q.cell? field rows x s := by
    rw [cell?_append]
    cases hcell : q.cell? field rows x s with
    | some row => rfl
    | none =>
      -- a further row at the place would have one of `rows` there already
      rw [Option.none_or, cell?_eq_none_iff]
      intro row hrow hplace
      obtain ⟨row', hrow', hplace'⟩ := h row hrow
      exact cell?_eq_none_iff.mp hcell row' hrow' (hplace'.trans hplace)
  simp only [pivot, hcategories, hnames, hcell]

theorem amountAt_append (h : ∃ row ∈ rows, q.place field row = (x, s)) :
    q.amountAt field y (rows ++ more) x s = q.amountAt field y rows x s := by
  rw [amountAt, amountAt, cell?_append]
  cases hcell : q.cell? field rows x s with
  | some row => rfl
  | none =>
    obtain ⟨row, hrow, hplace⟩ := h
    exact absurd hplace (cell?_eq_none_iff.mp hcell row hrow)

/-- A cell that a row was found for stays as it is. -/
theorem shows_pivotSpec_append {v : Datum} (h : ∃ row ∈ rows, q.place field row = (x, s))
    (hv : Shows (q.pivotSpec field y rows).toRecord x s v) :
    Shows (q.pivotSpec field y (rows ++ more)).toRecord x s v := by
  rw [shows_pivotSpec_iff] at hv ⊢
  obtain ⟨hx, hs, rfl⟩ := hv
  refine ⟨?_, ?_, by rw [amountAt_append h]⟩
  · rw [List.map_append]
    exact (distinctTexts_isPrefix_append _ _).subset hx
  · rw [seriesNames, List.map_append]
    exact ((distinctTexts_isPrefix_append _ _).filter _).subset hs

/-! ## The result -/

/-- A chart of bars or lines whose only measure is split by a field is as the rows say.  There is
one when the cells that it shows can be read, which is up to the range of numbers alone. -/
theorem spec_splits (hkind : q.kind = "bar" ∨ q.kind = "line") (hy : q.yFields = [y])
    (hseries : q.seriesBy = some field) (rows : List Record) :
    (∀ r, q.spec rows = .ok r → ∃ categories names series,
      q.IsPivot field y rows r.toRecord categories names series) ∧
    ((∃ r, q.spec rows = .ok r) ↔ q.Legible field y rows) ∧
    (∀ fault, q.spec rows = .error fault → fault = .numberTooLarge) ∧
    ∀ more : List Record,
      ((∀ row ∈ more, ∃ row' ∈ rows, q.place field row' = q.place field row) →
        q.spec (rows ++ more) = q.spec rows) ∧
      ∀ r r', q.spec rows = .ok r → q.spec (rows ++ more) = .ok r' →
        ∀ x s v, (∃ row ∈ rows, q.place field row = (x, s)) →
          Shows r.toRecord x s v → Shows r'.toRecord x s v := by
  refine ⟨fun r hr => ?_, ?_, ?_, fun more => ⟨fun h => ?_, fun r r' hr hr' x s v hplace hv => ?_⟩⟩
  · obtain ⟨h, rfl⟩ := (spec_eq_ok_iff hkind hy hseries).mp hr
    exact ⟨_, _, _, isPivot_pivotSpec h⟩
  · simp only [spec_eq_ok_iff hkind hy hseries, exists_eq_right]
  · rw [spec_eq_pivot hkind hy hseries]
    exact ((ranged_pivot hy).map _).2
  · rw [spec_eq_pivot hkind hy hseries, spec_eq_pivot hkind hy hseries, pivot_append_of_taken h]
  · obtain ⟨-, rfl⟩ := (spec_eq_ok_iff hkind hy hseries).mp hr
    obtain ⟨-, rfl⟩ := (spec_eq_ok_iff hkind hy hseries).mp hr'
    exact shows_pivotSpec_append hplace hv

/-- The sales of regions by month. -/
def salesByRegion : Request where
  kind := "bar"
  xField := "month"
  yFields := ["sales"]
  seriesBy := some "region"

/-- A month, a region and what was sold there. -/
def sale (month region : String) (sales : Int) : Record :=
  [("month", .text month), ("region", .text region), ("sales", .int sales)]

/-- Sales of two months, one of them in an unnamed region. -/
def sales : List Record :=
  [sale "Jan" "West" 10, sale "Jan" "East" 5, sale "Feb" "" 3, sale "Feb" "West" 7]

theorem spec_splits_sales :
    (salesByRegion.kind = "bar" ∨ salesByRegion.kind = "line") ∧
      salesByRegion.yFields = ["sales"] ∧ salesByRegion.seriesBy = some "region" ∧
      (∃ r categories names series, salesByRegion.spec sales = .ok r ∧
        salesByRegion.IsPivot "region" "sales" sales r.toRecord categories names series) ∧
      salesByRegion.spec (sales ++ [sale "Feb" "West" 8]) = salesByRegion.spec sales := by
  obtain ⟨hpivot, hexists, -, hmore⟩ :=
    spec_splits (q := salesByRegion) (.inl rfl) rfl rfl sales
  have hrange : ∀ row ∈ sales, (Record.get row "sales").inRange = true := by decide +kernel
  obtain ⟨r, hr⟩ := hexists.mpr (legible_of_inRange hrange)
  obtain ⟨categories, names, series, h⟩ := hpivot r hr
  have htaken : ∀ row ∈ [sale "Feb" "West" 8], ∃ row' ∈ sales,
      salesByRegion.place "region" row' = salesByRegion.place "region" row := by
    decide +kernel
  exact ⟨.inl rfl, rfl, rfl, ⟨r, categories, names, series, hr, h⟩, (hmore _).1 htaken⟩

end Request

end ChartBoard.Chart
