import ChartBoard.Sql.Piece

/-!
# Scanning statements

A statement read from left to right by the rules of quotation alone: a name ends at the first
double quote that is not doubled, a text at the first single quote that is not doubled.

* `scan?` splits a statement into tokens; there are none when it ends inside a quotation.
* `quotations` are the names and texts among the tokens.
-/

namespace ChartBoard.Sql

/-- What stands between quotes. -/
inductive Quotation where
  | name (s : String)
  | text (s : String)
deriving DecidableEq, Repr

/-- A quotation, or a character outside of any. -/
inductive Token where
  | quoted (q : Quotation)
  | outside (c : Char)
deriving DecidableEq, Repr

/-- The two quotes. -/
inductive Quote where
  | double
  | single
deriving DecidableEq, Repr

namespace Quote

/-- The character of a quote. -/
def char : Quote → Char
  | double => '\x22'
  | single => '\x27'

/-- The quote that a character is. -/
def ofChar? (c : Char) : Option Quote :=
  if c = '\x22' then some double else if c = '\x27' then some single else none

/-- What stands between two such quotes. -/
def quotation (q : Quote) (content : List Char) : Quotation :=
  match q with
  | double => .name (String.ofList content)
  | single => .text (String.ofList content)

end Quote

/-- Where a scan stands: outside of quotations, inside of one after some characters in reverse, or
behind a quote that ends it unless it is doubled. -/
inductive ScanState where
  | outside
  | inside (q : Quote) (read : List Char)
  | atQuote (q : Quote) (read : List Char)

/-- The tokens that a character completes outside of quotations, and where the scan stands then. -/
def scanOutside (c : Char) : List Token × ScanState :=
  match Quote.ofChar? c with
  | some q => ([], .inside q [])
  | none => ([.outside c], .outside)

/-- The tokens that a character completes, and where the scan stands then. -/
def ScanState.next (s : ScanState) (c : Char) : List Token × ScanState :=
  match s with
  | outside => scanOutside c
  | inside q read => if c = q.char then ([], .atQuote q read) else ([], .inside q (c :: read))
  | atQuote q read =>
    if c = q.char then ([], .inside q (c :: read))
    else
      let (tokens, s) := scanOutside c
      (.quoted (q.quotation read.reverse) :: tokens, s)

/-- The tokens that the end of a statement completes; it must not come inside a quotation. -/
def ScanState.finish? : ScanState → Option (List Token)
  | outside => some []
  | inside _ _ => none
  | atQuote q read => some [.quoted (q.quotation read.reverse)]

/-- The tokens of the rest of a statement. -/
def scanFrom? (s : ScanState) : List Char → Option (List Token)
  | [] => s.finish?
  | c :: rest => (scanFrom? (s.next c).2 rest).map ((s.next c).1 ++ ·)

/-- The tokens of a statement. -/
def scan? (statement : String) : Option (List Token) := scanFrom? .outside statement.toList

/-- The quotations among tokens. -/
def quotations (tokens : List Token) : List Quotation :=
  tokens.filterMap fun
    | .quoted q => some q
    | .outside _ => none

/-- What stands outside of the quotations among tokens. -/
def unquoted (tokens : List Token) : List Char :=
  tokens.filterMap fun
    | .quoted _ => none
    | .outside c => some c

end ChartBoard.Sql
