import ChartBoard.Number.Decimal
import ChartBoard.Task

/-!
# Draws

A source of whole numbers that decide what is random.  The numbers come in turn and start over when
they are used up.

* `choice`, `between` and `within` turn the next number into an item, a number of a range and a
  point of an interval.
-/

namespace ChartBoard.Seed

/-- The numbers and how many of them were drawn. -/
structure Draws where
  numbers : List Int
  drawn : Nat := 0

/-- Work that draws numbers. -/
abbrev Drawing (α : Type) := Task Draws α

/-- The number at a position of the endless repetition of some. -/
def Draws.at? (d : Draws) (i : Nat) : Option Int := d.numbers[i % d.numbers.length]?

/-- The next number. -/
def draw : Drawing Int := do
  let d ← get
  match d.at? d.drawn with
  | some n => set { d with drawn := d.drawn + 1 }; return n
  | none => throw .divisionByZero

/-- An item of a list. -/
def choice {α : Type} (items : List α) : Drawing α := do
  let n ← draw
  match items[(n % items.length).toNat]? with
  | some a => return a
  | none => throw .divisionByZero

/-- A number between two bounds, both included. -/
def between (least most : Int) : Drawing Int := do
  let n ← draw
  if most < least then throw .divisionByZero
  return least + n % (most - least + 1)

/-- A point of an interval, in thousandths of its length from its start. -/
def within (start stop : Float) : Drawing Float := do
  match Number.quotient? (← draw) 1000 with
  | some part => return start + (stop - start) * part
  | none => throw .numberTooLarge

end ChartBoard.Seed
