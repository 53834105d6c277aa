import ChartBoard.Proofs.Sql.Given

/-!
# Sealed statements

A statement that is made of fixed words and of what is given can be taken apart again whatever is
given: nothing inside its quotes can end them.

* `Query.Uses` says that a query is made of these alone.
* `Sealed` says what scanning its statement finds.
* `Query.Uses.sealed` is the result.
-/

namespace ChartBoard.Sql

variable {g : Given}

/-! ## Queries -/

/-- A query that is made of fixed words and of what is given alone. -/
def Query.Uses (g : Given) : Query → Prop
  | table items tables conditions groups =>
    (∀ i ∈ items, i.Uses g) ∧ tables.Uses g ∧ (∀ c ∈ conditions, c.Uses g) ∧
      ∀ p ∈ groups, (∀ e ∈ p.1, e.Uses g) ∧ p.2.Uses g
  | total value tables conditions => value.Uses g ∧ tables.Uses g ∧ ∀ c ∈ conditions, c.Uses g
  | windows time value tables conditions measure _ unit =>
    time.Uses g ∧ value.Uses g ∧ tables.Uses g ∧ (∀ c ∈ conditions, c.Uses g) ∧ measure.Uses g
      ∧ ∃ u : Granularity, unit = u.name
  | values column from_ conditions _ =>
    column ∈ g.columns ∧ from_ ∈ g.tables ∧ ∀ c ∈ conditions, c.Uses g

theorem written_windowTotal {measure : Expr} (h : measure.Uses g) {w : Window} {name : String}
    (hw : s!"t > {w.after.name} AND t <= {w.upTo.name}" ∈ keywords := by decide)
    (hname : s!"), 0) AS {name}" ∈ keywords := by decide) :
    Written (windowTotal measure w name) := by
  have hend : Written (w.pieces ++ [.code s!"), 0) AS {name}"]) := .code (.code .nil hname) hw
  have htotal : Written (measure.pieces ++ .code " FROM base, ranges WHERE " ::
      (w.pieces ++ [.code s!"), 0) AS {name}"])) :=
    .around h.written hend
  simpa [windowTotal] using Written.code (c := "COALESCE((SELECT ") htotal

theorem written_windowEnd {e : WindowEnd} (he : s!" AS {e.name}" ∈ keywords) (length : Nat)
    (unit : String) : Written (e.pieces length unit) :=
  .code (.around (.text _) .nil he)

theorem Query.Uses.written {q : Query} (h : q.Uses g) : Written q.pieces := by
  cases q with
  | table items tables conditions groups =>
    obtain ⟨hitems, -, hconditions, hgroups⟩ := h
    have hlist : Written (separated ", " (items.map Item.pieces)) := by
      refine .separated fun ps hps => ?_
      obtain ⟨i, hi, rfl⟩ := List.mem_map.mp hps
      exact (hitems i hi).written
    have hrows : Written (.code "SELECT " :: (separated ", " (items.map Item.pieces) ++
        .code " FROM " :: (tables.pieces ++ whereAll conditions))) :=
      .code (.around hlist (tables.written.whereAll hconditions))
    cases groups with
    | none => simpa [pieces] using hrows
    | some p =>
      obtain ⟨hby, horder⟩ := hgroups p rfl
      have hkeys : Written (separated ", " (p.1.map Expr.pieces)) := by
        refine .separated fun ps hps => ?_
        obtain ⟨e, he, rfl⟩ := List.mem_map.mp hps
        exact (hby e he).written
      have hordered := hkeys.around (c := " ORDER BY ") horder.written
      simpa [pieces] using hrows.around (c := " GROUP BY ") hordered
  | total value tables conditions =>
    obtain ⟨hvalue, -, hconditions⟩ := h
    have htotal := hvalue.written.around
      (c := s!", 0) AS {currentValue}, NULL AS {previousValue} FROM ")
      (tables.written.whereAll hconditions)
    simpa [pieces] using htotal.code (c := "SELECT COALESCE(")
  | windows time value tables conditions measure length unit =>
    obtain ⟨htime, hvalue, -, hconditions, hmeasure, -⟩ := h
    have hbase : Written (.code "WITH base AS (SELECT " :: (time.pieces ++ .code " AS t, " ::
        (value.pieces ++ .code " AS v FROM " :: (tables.pieces ++ whereAll conditions)))) :=
      .code (.around htime.written (.around hvalue.written (tables.written.whereAll hconditions)))
    have hends : Written (separated ", " ([WindowEnd.currentStart, .previousStart,
        .previousEnd].map fun e => e.pieces length unit)) := by
      refine .separated fun ps hps => ?_
      obtain ⟨e, he, rfl⟩ := List.mem_map.mp hps
      have hnames : ∀ e ∈ [WindowEnd.currentStart, .previousStart, .previousEnd],
          s!" AS {e.name}" ∈ keywords := by decide
      exact written_windowEnd (hnames e he) length unit
    have htotals : Written (windowTotal measure .current currentValue ++
        .code ", " :: windowTotal measure .previous previousValue) :=
      .around (written_windowTotal hmeasure) (written_windowTotal hmeasure)
    have hranges := (hends.around (c := " FROM dates) SELECT ") htotals).code
      (c := "ranges AS (SELECT CAST(max_t AS TIMESTAMP) AS max_t, ")
    simpa [pieces] using
      hbase.around (c := "), dates AS (SELECT MAX(t) AS max_t FROM base), ") hranges
  | values column from_ conditions limit =>
    obtain ⟨-, -, hconditions⟩ := h
    have hhead : Written [.code "SELECT ", .name column, .code " AS value FROM ", .name from_] :=
      .code (.around (.name column) (.name from_))
    have hlimit : Written [.number (toString limit)] := .one (Or.inl ⟨limit, rfl⟩)
    exact .around (hhead.whereAll hconditions) hlimit

/-- A query that is made of fixed words and of what is given mentions nothing else. -/
theorem Query.Uses.explained {q : Query} (h : q.Uses g) : ∀ m ∈ q.mentions, g.Explains m := by
  have hall {conditions : List Condition} (hc : ∀ c ∈ conditions, c.Uses g) :
      ∀ m ∈ conditions.flatMap Condition.mentions, g.Explains m := by
    intro m hm
    obtain ⟨c, hmem, hm⟩ := List.mem_flatMap.mp hm
    exact (hc c hmem).explained m hm
  intro m hm
  cases q with
  | table items tables conditions groups =>
    obtain ⟨hitems, htables, hconditions, hgroups⟩ := h
    simp only [mentions, List.mem_append] at hm
    rcases hm with ((hm | hm) | hm) | hm
    · obtain ⟨i, hi, hm⟩ := List.mem_flatMap.mp hm
      exact (hitems i hi).explained m hm
    · exact htables.explained m hm
    · exact hall hconditions m hm
    · cases groups with
      | none => cases hm
      | some p =>
        obtain ⟨hby, horder⟩ := hgroups p rfl
        rcases List.mem_append.mp hm with hm | hm
        · obtain ⟨e, he, hm⟩ := List.mem_flatMap.mp hm
          exact (hby e he).explained m hm
        · exact horder.explained m hm
  | total value tables conditions =>
    obtain ⟨hvalue, htables, hconditions⟩ := h
    simp only [mentions, List.mem_append] at hm
    rcases hm with (hm | hm) | hm
    · exact hvalue.explained m hm
    · exact htables.explained m hm
    · exact hall hconditions m hm
  | windows time value tables conditions measure length unit =>
    obtain ⟨htime, hvalue, htables, hconditions, hmeasure, u, rfl⟩ := h
    simp only [mentions, List.mem_append] at hm
    rcases hm with (((((hm | hm) | hm) | hm) | hm) | hm) | hm
    · exact htime.explained m hm
    · exact hvalue.explained m hm
    · exact htables.explained m hm
    · exact hall hconditions m hm
    · obtain ⟨k, -, rfl⟩ := List.mem_map.mp hm
      exact Or.inr ⟨length * k, u, rfl⟩
    · exact hmeasure.explained m hm
    · exact hmeasure.explained m hm
  | values column from_ conditions limit =>
    obtain ⟨hcolumn, htable, hconditions⟩ := h
    simp only [mentions, List.mem_append, List.mem_cons, List.not_mem_nil, or_false] at hm
    rcases hm with (rfl | rfl) | hm
    · exact hcolumn
    · exact htable
    · exact hall hconditions m hm

/-! ## Sealed statements -/

/-- True of the words of statements: fixed code, numbers and the aliases of tables. -/
def IsWord (w : String) : Prop := w ∈ keywords ∨ IsNumeral w ∨ ∃ position, w = sourceAlias position

/-- A statement that keeps what it is given between its quotes. -/
structure Sealed (g : Given) (q : Query) : Prop where
  /-- Scanning ends outside of quotations.  It finds what the query mentions between quotes, and
  words of statements alone outside of them. -/
  scanned : ∃ (tokens : List Token) (words : List String),
    scan? q.text = some tokens ∧ quotations tokens = q.mentions.map Mention.quotation ∧
      (∀ w ∈ words, IsWord w) ∧ unquoted tokens = words.flatMap String.toList
  /-- What the query mentions is given, or one of its own texts. -/
  explained : ∀ m ∈ q.mentions, g.Explains m
  /-- With any other names and texts in their place, the statement has the same tokens but for
  these names and texts. -/
  relabelled : ∀ onName onText, scan? (render (q.pieces.map (Piece.relabel onName onText))) =
    (scan? q.text).map (List.map (Token.relabel onName onText))

theorem Piece.IsPlain.isWord {p : Piece} (h : p.IsPlain) (hquote : p.isQuotation = false) :
    IsWord p.render := by
  cases p with
  | code c => exact Or.inl h
  | number digits => exact Or.inr (Or.inl h)
  | source position => exact Or.inr (Or.inr ⟨position, rfl⟩)
  | name s => cases hquote
  | text s => cases hquote

/-- A query that is made of fixed words and of what is given has a sealed statement. -/
theorem Query.Uses.sealed {q : Query} (h : q.Uses g) : Sealed g q where
  scanned := by
    refine ⟨_, (q.pieces.filter (!·.isQuotation)).map Piece.render, scan?_render h.written.tidy,
      ?_, ?_, unquoted_tokens q.pieces⟩
    · rw [quotations_tokens, q.quotationsOf_pieces]
    · intro w hw
      obtain ⟨p, hp, rfl⟩ := List.mem_map.mp hw
      obtain ⟨hmem, hquote⟩ := List.mem_filter.mp hp
      exact (h.written.plain p hmem).isWord (by simpa using hquote)
  explained := h.explained
  relabelled onName onText := by
    have htidy := h.written.tidy
    rw [scan?_render (htidy.relabel onName onText), Query.text, scan?_render htidy,
      flatMap_tokens_relabel, Option.map_some]

end ChartBoard.Sql
