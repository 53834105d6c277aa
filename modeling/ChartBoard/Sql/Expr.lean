import ChartBoard.Sql.Piece

/-!
# Expressions

The expressions that statements are built from, and the two coercions that read any column as a
number or as a point in time without ever failing the statement.

* `Expr.numeric` strips the dress of amounts and casts, `Expr.moment` tries the readings of a date.
* `Expr.bucket` cuts a date down to its month or year.
-/

namespace ChartBoard.Sql

/-- An expression. -/
inductive Expr where
  /-- Code taken as it is. -/
  | code (text : String)
  /-- A column of the table at a position of the statement. -/
  | column (source : Nat) (name : String)
  /-- A column by its name alone. -/
  | bare (name : String)
  /-- The value as text. -/
  | asText (e : Expr)
  /-- The value with every occurrence of one text replaced by another. -/
  | replaced (e : Expr) (old new : String)
  /-- The value as a type, null where it has none. -/
  | tryCast (e : Expr) (type : String)
  /-- The value divided by a number. -/
  | quotient (e : Expr) (divisor : String)
  /-- A function of one value. -/
  | call (function : String) (e : Expr)
  /-- The first of three values that is not null. -/
  | firstKnown (a b c : Expr)
  /-- A point in time cut down to the start of a unit. -/
  | truncated (unit : String) (e : Expr)
  /-- A point in time as text. -/
  | formatted (e : Expr) (format : String)
  /-- The number of rows. -/
  | countRows
  /-- The number of different values. -/
  | countDistinct (e : Expr)
deriving DecidableEq, Repr

namespace Expr

/-- The pieces of an expression. -/
def pieces : Expr → List Piece
  | code c => [.code c]
  | column source name => [.source source, .code ".", .name name]
  | bare name => [.name name]
  | asText e => .code "CAST(" :: e.pieces ++ [.code " AS VARCHAR)"]
  | replaced e old new =>
    .code "REPLACE(" :: e.pieces ++ [.code ", ", .text old, .code ", ", .text new, .code ")"]
  | tryCast e type => .code "TRY_CAST(" :: e.pieces ++ [.code s!" AS {type})"]
  | quotient e divisor => e.pieces ++ [.code " / ", .number divisor]
  | call function e => .code s!"{function}(" :: e.pieces ++ [.code ")"]
  | firstKnown a b c =>
    .code "COALESCE(" :: a.pieces ++ .code ", " :: b.pieces ++ .code ", " :: c.pieces ++ [.code ")"]
  | truncated unit e => [.code "DATE_TRUNC(", .text unit, .code ", "] ++ e.pieces ++ [.code ")"]
  | formatted e format =>
    .code "strftime(" :: e.pieces ++ [.code ", ", .text format, .code ")"]
  | countRows => [.code "COUNT(*)"]
  | countDistinct e => .code "COUNT(DISTINCT " :: e.pieces ++ [.code ")"]

/-- The expression as text. -/
def text (e : Expr) : String := render e.pieces

/-- The texts removed from amounts before they are cast. -/
def removedFromAmounts : List String := ["$", ",", " "]

/-- The value as text without what amounts are dressed with. -/
def undressed (e : Expr) : Expr :=
  removedFromAmounts.foldl (fun acc old => .replaced acc old "") (.asText e)

/-- The value as a number, null where it is none. -/
def numeric (e : Expr) : Expr := .tryCast e.undressed "DOUBLE"

/-- The value as a point in time: written out, or as seconds or milliseconds of an epoch. -/
def moment (e : Expr) : Expr :=
  let number : Expr := .tryCast (.asText e) "DOUBLE"
  .firstKnown
    (.tryCast (.asText e) "TIMESTAMP")
    (.tryCast (.call "TO_TIMESTAMP" number) "TIMESTAMP")
    (.tryCast (.call "TO_TIMESTAMP" (.quotient number "1000.0")) "TIMESTAMP")

end Expr

end ChartBoard.Sql
