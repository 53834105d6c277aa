import ChartBoard.Text.Search

/-!
# Pieces of a statement

A statement is a list of pieces: fixed code, names, texts, numbers and the aliases of its tables.
Only names and texts stand between quotes, and every quote inside them is written twice, so that
nothing inside can end them.

* `Piece.render` writes a piece, `render` a whole statement.
-/

namespace ChartBoard.Sql

/-- A piece of a statement. -/
inductive Piece where
  /-- Keywords and punctuation. -/
  | code (text : String)
  /-- The name of a table, a column or an output. -/
  | name (s : String)
  /-- A text value. -/
  | text (s : String)
  /-- A number. -/
  | number (digits : String)
  /-- The alias of the table at a position of the statement. -/
  | source (position : Nat)
deriving DecidableEq, Repr

/-- A name between double quotes. -/
def quotedName (s : String) : String := "\x22" ++ Text.doubled '\x22' s ++ "\x22"

/-- A text between single quotes. -/
def quotedText (s : String) : String := "'" ++ Text.doubled '\x27' s ++ "'"

/-- The alias of the table at a position: `t0` is the base table. -/
def sourceAlias (position : Nat) : String := "t" ++ toString position

/-- A piece as it stands in the statement. -/
def Piece.render : Piece → String
  | code c => c
  | name s => quotedName s
  | text s => quotedText s
  | number digits => digits
  | source position => sourceAlias position

/-- A statement as text. -/
def render (pieces : List Piece) : String := String.join (pieces.map Piece.render)

/-- Lists of pieces with fixed code between them. -/
def separated (code : String) : List (List Piece) → List Piece
  | [] => []
  | [pieces] => pieces
  | pieces :: rest => pieces ++ .code code :: separated code rest

end ChartBoard.Sql
