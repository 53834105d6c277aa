import ChartBoard.Proofs.Sql.Scanning
import ChartBoard.Sql.Query

/-!
# What statements mention

The names and texts between the quotes of a statement, each with what it is there for, in the
order in which the statement has them.

* `Query.mentions` reads them off the query, without writing the statement.
* `Query.quotationsOf_pieces` says that they are what the written statement has between quotes.
-/

namespace ChartBoard.Sql

/-- What stands between quotes in a statement, and what it is there for. -/
inductive Mention where
  | table (name : String)
  | column (name : String)
  | output (name : String)
  /-- A text that a column is compared with. -/
  | value (text : String)
  /-- A text of the statement's own. -/
  | fixed (text : String)
deriving DecidableEq, Repr

/-- The quotation that a mention stands in. -/
def Mention.quotation : Mention → Quotation
  | table s | column s | output s => .name s
  | value s | fixed s => .text s

/-! ## Mentions of queries -/

/-- The mentions of an expression. -/
def Expr.mentions : Expr → List Mention
  | code _ | countRows => []
  | column _ name | bare name => [.column name]
  | replaced e old new => e.mentions ++ [.fixed old, .fixed new]
  | asText e | tryCast e _ | quotient e _ | call _ e | countDistinct e => e.mentions
  | firstKnown a b c => a.mentions ++ b.mentions ++ c.mentions
  | truncated unit e => .fixed unit :: e.mentions
  | formatted e format => e.mentions ++ [.fixed format]

/-- The mention of a literal; numbers are not quoted. -/
def Literal.mentions : Literal → List Mention
  | number _ => []
  | text s => [.value s]

/-- The mentions of a condition. -/
def Condition.mentions : Condition → List Mention
  | never => []
  | oneOf e values => e.mentions ++ values.flatMap Literal.mentions
  | labelOneOf e labels =>
    labelFormats.flatMap fun format =>
      (e.moment.formatted format).mentions ++ labels.map Mention.value
  | known e => e.mentions

/-- The mentions of tables and their join conditions. -/
def From.mentions (f : From) : List Mention :=
  .table f.base :: f.joins.flatMap fun j => [.table j.table, .column j.baseColumn, .column j.column]

/-- The mentions of an item. -/
def Item.mentions (i : Item) : List Mention := i.expr.mentions ++ [.output i.name]

/-- The text of a length of time. -/
def intervalText (length : Nat) (unit : String) : String := s!"{length} {unit}"

/-- The mentions of a query. -/
def Query.mentions : Query → List Mention
  | table items tables conditions groups =>
    items.flatMap Item.mentions ++ tables.mentions ++ conditions.flatMap Condition.mentions
      ++ (match groups with
        | none => []
        | some (by_, order) => by_.flatMap Expr.mentions ++ order.mentions)
  | total value tables conditions =>
    value.mentions ++ tables.mentions ++ conditions.flatMap Condition.mentions
  | windows time value tables conditions measure length unit =>
    time.mentions ++ value.mentions ++ tables.mentions ++ conditions.flatMap Condition.mentions
      ++ [1, 2, 1].map (fun k => .fixed (intervalText (length * k) unit))
      ++ measure.mentions ++ measure.mentions
  | values column from_ conditions _ =>
    [.column column, .table from_] ++ conditions.flatMap Condition.mentions

/-! ## Quotations of written statements -/

/-- The quotations among pieces. -/
def quotationsOf (ps : List Piece) : List Quotation :=
  ps.filterMap fun
    | .name s => some (.name s)
    | .text s => some (.text s)
    | _ => none

section quotationsOf

variable (ps qs : List Piece)

@[simp] theorem quotationsOf_nil : quotationsOf [] = [] := rfl

@[simp] theorem quotationsOf_name (s : String) :
    quotationsOf (.name s :: ps) = .name s :: quotationsOf ps := rfl

@[simp] theorem quotationsOf_text (s : String) :
    quotationsOf (.text s :: ps) = .text s :: quotationsOf ps := rfl

@[simp] theorem quotationsOf_code (c : String) : quotationsOf (.code c :: ps) = quotationsOf ps :=
  rfl

@[simp] theorem quotationsOf_number (digits : String) :
    quotationsOf (.number digits :: ps) = quotationsOf ps := rfl

@[simp] theorem quotationsOf_source (position : Nat) :
    quotationsOf (.source position :: ps) = quotationsOf ps := rfl

@[simp] theorem quotationsOf_append :
    quotationsOf (ps ++ qs) = quotationsOf ps ++ quotationsOf qs :=
  List.filterMap_append

end quotationsOf

@[simp] theorem quotationsOf_separated (code : String) (l : List (List Piece)) :
    quotationsOf (separated code l) = l.flatMap quotationsOf := by
  induction l with
  | nil => rfl
  | cons ps rest ih =>
    cases rest with
    | nil => simp [separated]
    | cons qs rest =>
      rw [separated, quotationsOf_append, quotationsOf_code, ih]
      · rfl
      · simp

/-- Scanning finds the quotations among the pieces, in order. -/
theorem quotations_tokens (ps : List Piece) :
    quotations (ps.flatMap Piece.tokens) = quotationsOf ps := by
  induction ps with
  | nil => rfl
  | cons p ps ih =>
    have houtside (w : List Char) : quotations (w.map .outside) = [] := by
      simp [quotations, List.filterMap_map]
    have happend (a b : List Token) : quotations (a ++ b) = quotations a ++ quotations b := by
      simp [quotations]
    rw [List.flatMap_cons, happend, ih]
    cases p with
    | name s => rfl
    | text s => rfl
    | code c => simp [Piece.tokens, houtside]
    | number digits => simp [Piece.tokens, houtside]
    | source position => simp [Piece.tokens, houtside]

/-- Outside of quotations, scanning finds the text of the other pieces. -/
theorem unquoted_tokens (ps : List Piece) :
    unquoted (ps.flatMap Piece.tokens) =
      ((ps.filter (!·.isQuotation)).map Piece.render).flatMap String.toList := by
  induction ps with
  | nil => rfl
  | cons p ps ih =>
    have houtside (w : List Char) : unquoted (w.map .outside) = w := by
      simp [unquoted, List.filterMap_map]
    have happend (a b : List Token) : unquoted (a ++ b) = unquoted a ++ unquoted b := by
      simp [unquoted]
    rw [List.flatMap_cons, happend, ih, List.filter_cons]
    cases p with
    | name s => rfl
    | text s => rfl
    | code c => simp [Piece.tokens, houtside, Piece.isQuotation]
    | number digits => simp [Piece.tokens, houtside, Piece.isQuotation]
    | source position => simp [Piece.tokens, houtside, Piece.isQuotation]

@[simp] theorem Expr.quotationsOf_pieces (e : Expr) :
    quotationsOf e.pieces = e.mentions.map Mention.quotation := by
  induction e with
  | code c => rfl
  | column source name => rfl
  | bare name => rfl
  | asText e ih => simp [pieces, mentions, ih]
  | replaced e old new ih => simp [pieces, mentions, ih, Mention.quotation]
  | tryCast e type ih => simp [pieces, mentions, ih]
  | quotient e divisor ih => simp [pieces, mentions, ih]
  | call function e ih => simp [pieces, mentions, ih]
  | firstKnown a b c iha ihb ihc => simp [pieces, mentions, iha, ihb, ihc]
  | truncated unit e ih => simp [pieces, mentions, ih, Mention.quotation]
  | formatted e format ih => simp [pieces, mentions, ih, Mention.quotation]
  | countRows => rfl
  | countDistinct e ih => simp [pieces, mentions, ih]

@[simp] theorem Literal.quotationsOf_piece (v : Literal) :
    quotationsOf [v.piece] = v.mentions.map Mention.quotation := by
  cases v <;> rfl

theorem quotationsOf_inList (e : List Piece) (values : List Literal) :
    quotationsOf (inList e values) =
      quotationsOf e ++ (values.flatMap Literal.mentions).map Mention.quotation := by
  simp [inList, List.flatMap_map, List.map_flatMap]

@[simp] theorem Condition.quotationsOf_pieces (c : Condition) :
    quotationsOf c.pieces = c.mentions.map Mention.quotation := by
  cases c with
  | never => rfl
  | oneOf e values => simp [pieces, mentions, quotationsOf_inList]
  | labelOneOf e labels =>
    have hvalues : (labels.map Literal.text).flatMap Literal.mentions = labels.map .value := by
      rw [List.flatMap_map]
      exact List.map_eq_flatMap.symm
    simp [pieces, mentions, quotationsOf_inList, List.flatMap_map, List.map_flatMap, hvalues]
  | known e => simp [pieces, mentions]

@[simp] theorem quotationsOf_whereAll (conditions : List Condition) :
    quotationsOf (whereAll conditions) =
      (conditions.flatMap Condition.mentions).map Mention.quotation := by
  unfold whereAll
  split
  · rename_i h
    simp [List.isEmpty_iff.mp h]
  · simp [List.flatMap_map, List.map_flatMap]

@[simp] theorem From.quotationsOf_pieces (f : From) :
    quotationsOf f.pieces = f.mentions.map Mention.quotation := by
  have hjoin (j : Join) : quotationsOf j.pieces =
      [.name j.table, .name j.baseColumn, .name j.column] := rfl
  simp [pieces, mentions, List.flatMap_map, List.map_flatMap, hjoin, Mention.quotation]

@[simp] theorem Item.quotationsOf_pieces (i : Item) :
    quotationsOf i.pieces = i.mentions.map Mention.quotation := by
  simp [pieces, mentions, Mention.quotation]

@[simp] theorem quotationsOf_windowTotal (measure : Expr) (w : Window) (name : String) :
    quotationsOf (windowTotal measure w name) = measure.mentions.map Mention.quotation := by
  simp [windowTotal, Window.pieces]

/-- The names and texts between the quotes of a statement are those that the query mentions. -/
theorem Query.quotationsOf_pieces (q : Query) :
    quotationsOf q.pieces = q.mentions.map Mention.quotation := by
  cases q with
  | table items tables conditions groups =>
    cases groups <;> simp [pieces, mentions, List.flatMap_map, List.map_flatMap]
  | total value tables conditions => simp [pieces, mentions]
  | windows time value tables conditions measure length unit =>
    simp [pieces, mentions, WindowEnd.pieces, WindowEnd.lengths, intervalText, Mention.quotation]
  | values column table conditions limit => simp [pieces, mentions, Mention.quotation]

end ChartBoard.Sql
