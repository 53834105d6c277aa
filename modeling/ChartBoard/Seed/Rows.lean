import ChartBoard.Seed.Currency
import ChartBoard.Seed.Draws

/-!
# Customers and orders

Rows for two small tables, with sales written as currency text the way spreadsheets deliver it.

* `customers` and `orders` make the rows.
-/

namespace ChartBoard.Seed

open Calendar Number

/-- A customer. -/
structure Customer where
  id : Nat
  name : String
  country : String
  segment : String
deriving DecidableEq, Repr

/-- An order. -/
structure Order where
  id : Nat
  customer : Nat
  date : Date
  category : String
  status : String
  quantity : Int
  sales : String

/-- The row of a customer. -/
def Customer.toRecord (c : Customer) : Record :=
  [("id", .int c.id), ("name", .text c.name), ("country", .text c.country),
   ("segment", .text c.segment)]

/-- The row of an order. -/
def Order.toRecord (o : Order) : Record :=
  [("order_id", .int o.id), ("customer_id", .int o.customer), ("order_date", .date o.date),
   ("category", .text o.category), ("status", .text o.status), ("quantity", .int o.quantity),
   ("sales", .text o.sales)]

/-- The countries of customers. -/
def countries : List String :=
  ["US", "UK", "Germany", "Canada", "Australia", "France", "Brazil", "Japan"]

/-- The segments of customers. -/
def segments : List String := ["Consumer", "Corporate", "Home Office"]

/-- The categories of orders. -/
def categories : List String := ["Furniture", "Office Supplies", "Technology"]

/-- The states of orders. -/
def statuses : List String := ["completed", "cancelled", "pending"]

/-- The number of days after the first one on which an order can be made: two years from the start
of 2023, of which one is a leap year. -/
def lastDay : Nat := 730

/-- The first day on which an order can be made. -/
def firstDay : Date := ⟨2023, 1, 1, by decide⟩

/-- The day that lies some days after the first one. -/
def dayOf (n : Int) : Date := (firstDay.addDays? n.toNat).getD firstDay

/-- The numbers from one on. -/
def numbered (count : Int) : List Nat := (List.range count.toNat).map (· + 1)

/-- A customer. -/
def customer (id : Nat) (name : String) : Drawing Customer := do
  let country ← choice countries
  let segment ← choice segments
  return ⟨id, name, country, segment⟩

/-- A number of customers with names taken in turn. -/
def customers (names : List String) (count : Int) : Drawing (List Customer) :=
  (numbered count).mapM fun id =>
    match names[id - 1]? with
    | some name => customer id name
    | none => throw .noItem

/-- An order by one of some customers. -/
def order (ids : List Nat) (id : Nat) : Drawing Order := do
  let quantity ← between 1 12
  let buyer ← choice ids
  let day ← between 0 lastDay
  let category ← choice categories
  let status ← choice statuses
  let price ← within 5.0 900.0
  let sales := currencyText (roundToHundredths (Float.ofInt quantity * price))
  return ⟨id, buyer, dayOf day, category, status, quantity, sales⟩

/-- A number of orders by some customers. -/
def orders (buyers : List Customer) (count : Int) : Drawing (List Order) :=
  (numbered count).mapM (order (buyers.map (·.id)))

end ChartBoard.Seed
