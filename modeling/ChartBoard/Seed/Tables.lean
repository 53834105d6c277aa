import ChartBoard.Engine.Session
import ChartBoard.Seed.Rows

/-!
# Seeded tables

* `batches` cuts rows into the portions that are inserted at once.
* `prepared` are the rows of both tables, `load` makes the tables anew and fills them.
-/

namespace ChartBoard.Seed

open Engine

/-- The statement that inserts rows with some columns into a table. -/
def insertStatement (table : String) (columns : List String) : String :=
  "INSERT INTO \x22" ++ table ++ "\x22 (" ++ ", ".intercalate columns ++ ") VALUES ("
    ++ ", ".intercalate (columns.map (":" ++ ·)) ++ ")"

/-- The rows in portions of a positive size; `fuel` bounds their number. -/
def portions (size : Nat) : (fuel : Nat) → List Record → List (List Record)
  | 0, _ => []
  | _ + 1, [] => []
  | fuel + 1, rows => rows.take size :: portions size fuel (rows.drop size)

/-- The portions in which rows are inserted, with the columns of the first row. -/
def batches (table : String) (rows : List Record) (size : Int) : Except Fault (List Insertion) :=
  match rows with
  | [] => .ok []
  | first :: _ =>
    if size = 0 then .error .unreadable
    else
      let statement := insertStatement table (Record.names first)
      let fuel := if size < 0 then 0 else rows.length
      .ok ((portions size.toNat fuel rows).map (Insertion.mk statement))

/-- The statements that make both tables anew. -/
def tableStatements : List String :=
  ["CREATE OR REPLACE TABLE \x22Customers\x22 (id INTEGER, name VARCHAR, country VARCHAR, segment VARCHAR)",
   "CREATE OR REPLACE TABLE \x22Orders\x22 (order_id INTEGER, customer_id INTEGER, order_date DATE, category VARCHAR, status VARCHAR, quantity INTEGER, sales VARCHAR)"]

/-- Makes both tables anew and inserts rows into them. -/
def load (inserts : List Insertion) : Session Unit :=
  onConnection do
    for sql in tableStatements do
      let _ ← send sql
    inserts.forM insert

/-- The number of rows in a portion that is inserted at once. -/
def portionSize : Int := 1000

/-- The rows of both tables, in portions, and their numbers. -/
def prepared (names : List String) (customerCount orderCount : Int) :
    Drawing (List Insertion × Nat × Nat) := do
  let buyers ← customers names customerCount
  let bought ← orders buyers orderCount
  let first ← Task.ofExcept (batches "Customers" (buyers.map Customer.toRecord) portionSize)
  let second ← Task.ofExcept (batches "Orders" (bought.map Order.toRecord) portionSize)
  return (first ++ second, buyers.length, bought.length)

end ChartBoard.Seed
