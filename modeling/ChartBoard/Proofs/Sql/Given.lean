import ChartBoard.Proofs.Sql.Vocabulary

/-!
# What statements are made of

Statements are written from fixed words and from names and texts that are given.  What is given
only ever stands between quotes.

* `Given` lists what is given, `Given.Explains` says what a mention may be.
* `Expr.Uses`, `Condition.Uses`, `From.Uses` and `Item.Uses` say that a part of a query is made of
  fixed words and of what is given alone.
* `Expr.Uses.written` and its like say that the pieces of such a part are `Written`,
  `Expr.Uses.explained` and its like that it mentions nothing else.
-/

namespace ChartBoard.Sql

/-- The names and texts that a statement may mention, by what they are there for. -/
structure Given where
  tables : List String
  columns : List String
  outputs : List String
  values : List String

/-- True of the mentions of what is given, and of the statement's own texts. -/
def Given.Explains (g : Given) : Mention → Prop
  | .table s => s ∈ g.tables
  | .column s => s ∈ g.columns
  | .output s => s ∈ g.outputs
  | .value s => s ∈ g.values
  | .fixed s => s ∈ fixedTexts ∨ IsInterval s

/-! ## Written pieces -/

/-- True of a piece whose text, where it has no quotes, is one of the words of statements. -/
def Piece.IsPlain : Piece → Prop
  | code c => c ∈ keywords
  | number digits => IsNumeral digits
  | name _ | text _ | source _ => True

/-- Pieces that are plain, with something between any two quotations. -/
structure Written (ps : List Piece) : Prop where
  plain : ∀ p ∈ ps, p.IsPlain
  apart : ps.IsChain fun p q => p.isQuotation = false ∨ q.isQuotation = false

namespace Written

variable {ps qs : List Piece} {c : String}

theorem nil : Written [] := ⟨by simp, .nil⟩

theorem one {p : Piece} (h : p.IsPlain) : Written [p] := ⟨by simpa using h, .singleton p⟩

theorem name (s : String) : Written [.name s] := one trivial

theorem text (s : String) : Written [.text s] := one trivial

/-- Pieces that are written may follow each other where one of the two ends is no quotation. -/
theorem append (hp : Written ps) (hq : Written qs)
    (h : ∀ p ∈ ps.getLast?, ∀ q ∈ qs.head?, p.isQuotation = false ∨ q.isQuotation = false) :
    Written (ps ++ qs) := by
  refine ⟨fun p hmem => ?_, List.isChain_append.mpr ⟨hp.apart, hq.apart, h⟩⟩
  rcases List.mem_append.mp hmem with hmem | hmem
  · exact hp.plain p hmem
  · exact hq.plain p hmem

theorem cons {p : Piece} (hp : p.IsPlain) (hquote : p.isQuotation = false) (hq : Written qs) :
    Written (p :: qs) :=
  append (one hp) hq (by simp [hquote])

theorem code (hq : Written qs) (hc : c ∈ keywords := by decide) : Written (.code c :: qs) :=
  cons hc rfl hq

/-- Code keeps apart what stands before and behind it. -/
theorem around (hp : Written ps) (hq : Written qs) (hc : c ∈ keywords := by decide) :
    Written (ps ++ .code c :: qs) :=
  append hp (code hq hc) (by simp [Piece.isQuotation])

theorem snoc (hp : Written ps) (hc : c ∈ keywords := by decide) : Written (ps ++ [.code c]) :=
  around hp nil hc

theorem separated {l : List (List Piece)} (h : ∀ ps ∈ l, Written ps)
    (hc : c ∈ keywords := by decide) : Written (separated c l) := by
  induction l with
  | nil => exact nil
  | cons ps rest ih =>
    have hrest := ih fun qs hqs => h qs (List.mem_cons_of_mem ps hqs)
    cases rest with
    | nil => exact h ps (by simp)
    | cons qs rest => exact around (h ps (by simp)) hrest hc

/-- Scanning takes written pieces apart again. -/
theorem tidy (h : Written ps) : Tidy ps := by
  refine ⟨fun p hmem hquote => ?_, h.apart⟩
  have hplain := h.plain p hmem
  cases p with
  | code c => exact isBare_of_mem_keywords hplain
  | number digits => exact hplain.isBare
  | source position => exact isBare_sourceAlias position
  | name s => cases hquote
  | text s => cases hquote

end Written

/-! ## Expressions -/

/-- An expression of fixed words and given columns. -/
inductive Expr.Uses (g : Given) : Expr → Prop
  | code {c : String} (hc : c ∈ keywords) : Uses g (.code c)
  | column {source : Nat} {name : String} (hname : name ∈ g.columns) : Uses g (.column source name)
  | bare {name : String} (hname : name ∈ g.columns) : Uses g (.bare name)
  | asText {e : Expr} (he : Uses g e) : Uses g (.asText e)
  | replaced {e : Expr} {old new : String} (he : Uses g e) (hold : old ∈ fixedTexts)
      (hnew : new ∈ fixedTexts) : Uses g (.replaced e old new)
  | tryCast {e : Expr} {type : String} (he : Uses g e) (htype : s!" AS {type})" ∈ keywords) :
      Uses g (.tryCast e type)
  | quotient {e : Expr} {divisor : String} (he : Uses g e) (hdivisor : IsNumeral divisor) :
      Uses g (.quotient e divisor)
  | call {function : String} {e : Expr} (he : Uses g e) (hfunction : s!"{function}(" ∈ keywords) :
      Uses g (.call function e)
  | firstKnown {a b c : Expr} (ha : Uses g a) (hb : Uses g b) (hc : Uses g c) :
      Uses g (.firstKnown a b c)
  | truncated {unit : String} {e : Expr} (hunit : unit ∈ fixedTexts) (he : Uses g e) :
      Uses g (.truncated unit e)
  | formatted {e : Expr} {format : String} (he : Uses g e) (hformat : format ∈ fixedTexts) :
      Uses g (.formatted e format)
  | countRows : Uses g .countRows
  | countDistinct {e : Expr} (he : Uses g e) : Uses g (.countDistinct e)

variable {g : Given}

theorem Expr.Uses.written {e : Expr} (h : e.Uses g) : Written e.pieces := by
  induction h with
  | code hc => exact .one hc
  | column _ => exact .cons trivial rfl (.code (.name _))
  | bare _ => exact .name _
  | asText _ ih => exact .code (.snoc ih)
  | @replaced e old new _ _ _ ih =>
    have hnew : Written [.text new, .code ")"] := .snoc (.text new)
    have hold : Written [.text old, .code ", ", .text new, .code ")"] := .around (.text old) hnew
    exact .code (.around ih hold)
  | tryCast _ htype ih => exact .code (.snoc ih htype)
  | quotient _ hdivisor ih => exact .around ih (.one hdivisor)
  | call _ hfunction ih => exact .code (.snoc ih) hfunction
  | @firstKnown a b c _ _ _ iha ihb ihc =>
    have hc : Written (c.pieces ++ [.code ")"]) := .snoc ihc
    have hb : Written (b.pieces ++ .code ", " :: (c.pieces ++ [.code ")"])) := .around ihb hc
    have ha : Written (a.pieces ++ .code ", " :: (b.pieces ++ .code ", " :: (c.pieces ++
        [.code ")"]))) := .around iha hb
    simpa [pieces] using Written.code (c := "COALESCE(") ha
  | @truncated unit e _ _ ih =>
    have he : Written (e.pieces ++ [.code ")"]) := .snoc ih
    have hunit : Written ([.text unit] ++ .code ", " :: (e.pieces ++ [.code ")"])) :=
      .around (.text unit) he
    exact .code hunit
  | @formatted e format _ _ ih =>
    have hformat : Written [.text format, .code ")"] := .snoc (.text format)
    exact .code (.around ih hformat)
  | countRows => exact .code .nil
  | countDistinct _ ih => exact .code (.snoc ih)

theorem Expr.Uses.explained {e : Expr} (h : e.Uses g) : ∀ m ∈ e.mentions, g.Explains m := by
  induction h with
  | code _ => simp [mentions]
  | column hname =>
    intro m hm
    obtain rfl := List.mem_singleton.mp hm
    exact hname
  | bare hname =>
    intro m hm
    obtain rfl := List.mem_singleton.mp hm
    exact hname
  | asText _ ih => exact ih
  | replaced _ hold hnew ih =>
    intro m hm
    simp only [mentions, List.mem_append, List.mem_cons, List.not_mem_nil, or_false] at hm
    rcases hm with hm | rfl | rfl
    · exact ih m hm
    · exact Or.inl hold
    · exact Or.inl hnew
  | tryCast _ _ ih => exact ih
  | quotient _ _ ih => exact ih
  | call _ _ ih => exact ih
  | firstKnown _ _ _ iha ihb ihc =>
    intro m hm
    simp only [mentions, List.mem_append] at hm
    rcases hm with (hm | hm) | hm
    · exact iha m hm
    · exact ihb m hm
    · exact ihc m hm
  | truncated hunit _ ih =>
    intro m hm
    rcases List.mem_cons.mp hm with rfl | hm
    · exact Or.inl hunit
    · exact ih m hm
  | formatted _ hformat ih =>
    intro m hm
    simp only [mentions, List.mem_append, List.mem_singleton] at hm
    rcases hm with hm | rfl
    · exact ih m hm
    · exact Or.inl hformat
  | countRows => simp [mentions]
  | countDistinct _ ih => exact ih

/-! ## Coercions and aggregates -/

theorem Expr.Uses.numeric {e : Expr} (h : e.Uses g) : e.numeric.Uses g := by
  have hundressed : e.undressed.Uses g := by
    have hdollar : (Expr.replaced (.asText e) "$" "").Uses g :=
      .replaced (.asText h) (by decide) (by decide)
    exact .replaced (.replaced hdollar (by decide) (by decide)) (by decide) (by decide)
  exact .tryCast hundressed (by decide)

theorem Expr.Uses.moment {e : Expr} (h : e.Uses g) : e.moment.Uses g := by
  have hnumber : (Expr.tryCast (.asText e) "DOUBLE").Uses g := .tryCast (.asText h) (by decide)
  refine .firstKnown (.tryCast (.asText h) (by decide)) ?_ ?_
  · exact .tryCast (.call hnumber (by decide)) (by decide)
  · have hseconds := Expr.Uses.quotient hnumber (Or.inr (Or.inr rfl) : IsNumeral "1000.0")
    exact .tryCast (.call hseconds (by decide)) (by decide)

/-- An aggregate whose function, if it has one, is a word of statements. -/
structure Aggregate.IsKnown (a : Aggregate) : Prop where
  code : ∀ name, a = function name → s!"{name}(" ∈ keywords

theorem Aggregate.isKnown_of_supported {name : String} (h : name ∈ supported) :
    (ofCapitals name).IsKnown := by
  refine ⟨fun function hfunction => ?_⟩
  simp only [supported, List.mem_cons, List.not_mem_nil, or_false] at h
  rcases h with rfl | rfl | rfl | rfl | rfl | rfl | rfl | rfl
  all_goals cases hfunction
  all_goals decide

theorem Aggregate.input_uses {e : Expr} (h : e.Uses g) (a : Aggregate) : (a.input e).Uses g := by
  cases a with
  | countRows => exact .code (by decide)
  | count => exact h
  | countDistinct => exact h
  | rowLevel => exact h.numeric
  | function name => exact h.numeric

theorem Aggregate.outer_uses {e : Expr} (h : e.Uses g) {a : Aggregate} (ha : a.IsKnown) :
    (a.outer e).Uses g := by
  cases a with
  | countRows => exact .countRows
  | count => exact .call h (by decide)
  | countDistinct => exact .countDistinct h
  | rowLevel => exact .call h (by decide)
  | function name => exact .call h (ha.code name rfl)

theorem Aggregate.column_uses {e : Expr} (h : e.Uses g) {a : Aggregate} (ha : a.IsKnown) :
    (a.column e).Uses g :=
  outer_uses (input_uses h a) ha

/-! ## Conditions, tables and items -/

/-- A literal that is a number or a given text. -/
def Literal.Uses (g : Given) : Literal → Prop
  | number digits => IsNumeral digits
  | text s => s ∈ g.values

/-- A condition of used expressions and literals. -/
def Condition.Uses (g : Given) : Condition → Prop
  | never => True
  | oneOf e values => e.Uses g ∧ ∀ v ∈ values, v.Uses g
  | labelOneOf e labels => e.Uses g ∧ ∀ s ∈ labels, s ∈ g.values
  | known e => e.Uses g

/-- Given tables, joined on given columns. -/
structure From.Uses (g : Given) (f : From) : Prop where
  base : f.base ∈ g.tables
  joins : ∀ j ∈ f.joins, j.table ∈ g.tables ∧ j.baseColumn ∈ g.columns ∧ j.column ∈ g.columns

/-- A used expression under a given output name. -/
structure Item.Uses (g : Given) (i : Item) : Prop where
  expr : i.expr.Uses g
  name : i.name ∈ g.outputs

theorem Literal.Uses.written {v : Literal} (h : v.Uses g) : Written [v.piece] := by
  cases v with
  | number digits => exact .one h
  | text s => exact .text s

theorem written_inList {e : List Piece} {values : List Literal} (he : Written e)
    (hvalues : ∀ v ∈ values, v.Uses g) : Written (inList e values) := by
  have hlist : Written (separated ", " (values.map fun v => [v.piece])) := by
    refine .separated fun ps hps => ?_
    obtain ⟨v, hv, rfl⟩ := List.mem_map.mp hps
    exact (hvalues v hv).written
  have hclosed : Written (Sql.separated ", " (values.map fun v => [v.piece]) ++ [.code ")"]) :=
    .snoc hlist
  simpa [inList] using Written.around (c := " IN (") he hclosed

theorem Condition.Uses.written {c : Condition} (h : c.Uses g) : Written c.pieces := by
  cases c with
  | never => exact .code .nil
  | oneOf e values => exact written_inList h.1.written h.2
  | labelOneOf e labels =>
    obtain ⟨he, hlabels⟩ := h
    have hchecks : ∀ ps ∈ labelFormats.map fun format =>
        inList (e.moment.formatted format).pieces (labels.map .text), Written ps := by
      intro ps hps
      obtain ⟨format, hformat, rfl⟩ := List.mem_map.mp hps
      have hfixed : ∀ format ∈ labelFormats, format ∈ fixedTexts := by decide
      have huses : (e.moment.formatted format).Uses g :=
        .formatted he.moment (hfixed format hformat)
      refine written_inList (g := g) huses.written fun v hv => ?_
      obtain ⟨s, hs, rfl⟩ := List.mem_map.mp hv
      exact hlabels s hs
    exact .code (.snoc (.separated hchecks))
  | known e => exact .snoc (Expr.Uses.written h)

theorem Condition.Uses.explained {c : Condition} (h : c.Uses g) :
    ∀ m ∈ c.mentions, g.Explains m := by
  cases c with
  | never => simp [mentions]
  | oneOf e values =>
    intro m hm
    rcases List.mem_append.mp hm with hm | hm
    · exact h.1.explained m hm
    · obtain ⟨v, hv, hm⟩ := List.mem_flatMap.mp hm
      have huses := h.2 v hv
      cases v with
      | number digits => simp [Literal.mentions] at hm
      | text s =>
        obtain rfl := List.mem_singleton.mp hm
        exact huses
  | labelOneOf e labels =>
    intro m hm
    obtain ⟨format, hformat, hm⟩ := List.mem_flatMap.mp hm
    have hfixed : ∀ format ∈ labelFormats, format ∈ fixedTexts := by decide
    rcases List.mem_append.mp hm with hm | hm
    · have huses : (e.moment.formatted format).Uses g :=
        .formatted h.1.moment (hfixed format hformat)
      exact huses.explained m hm
    · obtain ⟨s, hs, rfl⟩ := List.mem_map.mp hm
      exact h.2 s hs
  | known e => exact Expr.Uses.explained h

theorem Written.whereAll {ps : List Piece} {conditions : List Condition} (hp : Written ps)
    (h : ∀ c ∈ conditions, c.Uses g) : Written (ps ++ whereAll conditions) := by
  unfold Sql.whereAll
  split
  · simpa using hp
  · refine .around hp (.separated fun qs hqs => ?_)
    obtain ⟨c, hc, rfl⟩ := List.mem_map.mp hqs
    exact (h c hc).written

theorem Join.written (j : Join) : Written j.pieces := by
  have hcolumn (source : Nat) (name : String) : Written (Expr.column source name).pieces :=
    .cons trivial rfl (.code (.name name))
  have hon : Written ((Expr.column 0 j.baseColumn).pieces ++
      .code " = " :: (Expr.column j.source j.column).pieces) :=
    .around (hcolumn 0 j.baseColumn) (hcolumn j.source j.column)
  have hsource : Written (.source j.source :: .code " ON " ::
      ((Expr.column 0 j.baseColumn).pieces ++
        .code " = " :: (Expr.column j.source j.column).pieces)) :=
    .cons trivial rfl (.code hon)
  have htable : Written ([.name j.table] ++ .code " " :: (.source j.source :: .code " ON " ::
      ((Expr.column 0 j.baseColumn).pieces ++
        .code " = " :: (Expr.column j.source j.column).pieces))) :=
    .around (.name j.table) hsource
  simpa [pieces] using Written.code (c := "JOIN ") htable

theorem From.written (f : From) : Written f.pieces := by
  refine .separated fun ps hps => ?_
  rcases List.mem_cons.mp hps with rfl | hps
  · exact .around (.name f.base) (.one trivial)
  · obtain ⟨j, -, rfl⟩ := List.mem_map.mp hps
    exact j.written

theorem From.Uses.explained {f : From} (h : f.Uses g) : ∀ m ∈ f.mentions, g.Explains m := by
  intro m hm
  rcases List.mem_cons.mp hm with rfl | hm
  · exact h.base
  · obtain ⟨j, hj, hm⟩ := List.mem_flatMap.mp hm
    obtain ⟨htable, hbase, hcolumn⟩ := h.joins j hj
    simp only [List.mem_cons, List.not_mem_nil, or_false] at hm
    rcases hm with rfl | rfl | rfl
    · exact htable
    · exact hbase
    · exact hcolumn

theorem Item.Uses.written {i : Item} (h : i.Uses g) : Written i.pieces :=
  .around h.expr.written (.name i.name)

theorem Item.Uses.explained {i : Item} (h : i.Uses g) : ∀ m ∈ i.mentions, g.Explains m := by
  intro m hm
  rcases List.mem_append.mp hm with hm | hm
  · exact h.expr.explained m hm
  · obtain rfl := List.mem_singleton.mp hm
    exact h.name

end ChartBoard.Sql
