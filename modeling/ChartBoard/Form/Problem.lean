/-!
# Problems of a form

What is wrong with loosely typed input, and where.

* `Problem` is a location and a kind; `ProblemKind.code` is the word for a kind.
* `Checked` collects every problem of its parts; `Checked.and` joins two parts.
-/

namespace ChartBoard.Form

/-- A step of a location: into a member or into an item. -/
inductive Step where
  | member (name : String)
  | item (index : Nat)
deriving DecidableEq, Repr

/-- What can be wrong with a part of a form. -/
inductive ProblemKind where
  | missing
  | notText
  | tooShort
  | tooLong
  | notInteger
  | unreadableInteger
  | hugeInteger
  | fractional
  | notFinite
  | tooSmall
  | tooLarge
  | notBool
  | unreadableBool
  | notList
  | notObject
  | notForm
  | notBody
  | unknownTag
  | noTag
  | notInterchange
deriving DecidableEq, Repr

/-- The word for a kind of problem. -/
def ProblemKind.code : ProblemKind → String
  | missing => "missing"
  | notText => "string_type"
  | tooShort => "string_too_short"
  | tooLong => "string_too_long"
  | notInteger => "int_type"
  | unreadableInteger => "int_parsing"
  | hugeInteger => "int_parsing_size"
  | fractional => "int_from_float"
  | notFinite => "finite_number"
  | tooSmall => "greater_than_equal"
  | tooLarge => "less_than_equal"
  | notBool => "bool_type"
  | unreadableBool => "bool_parsing"
  | notList => "list_type"
  | notObject => "dict_type"
  | notForm => "model_type"
  | notBody => "model_attributes_type"
  | unknownTag => "union_tag_invalid"
  | noTag => "union_tag_not_found"
  | notInterchange => "json_invalid"

/-- A kind of problem and the place where it arises. -/
structure Problem where
  location : List Step
  kind : ProblemKind
deriving DecidableEq, Repr

/-- The problem as seen from one step further out. -/
def Problem.within (step : Step) (p : Problem) : Problem := ⟨step :: p.location, p.kind⟩

/-- A value, or every problem that stands in its way. -/
abbrev Checked (α : Type) := Except (List Problem) α

namespace Checked

/-- A single problem, here. -/
def problem {α : Type} (kind : ProblemKind) : Checked α := .error [⟨[], kind⟩]

/-- A part seen from one step further out. -/
def within {α : Type} (step : Step) (part : Checked α) : Checked α :=
  part.mapError fun problems => problems.map (Problem.within step)

/-- Two parts: both values, or the problems of the first before those of the second. -/
def and {α β γ : Type} (f : α → β → γ) (first : Checked α) (second : Checked β) : Checked γ :=
  match first, second with
  | .ok a, .ok b => .ok (f a b)
  | .error p, .ok _ => .error p
  | .ok _, .error q => .error q
  | .error p, .error q => .error (p ++ q)

/-- A function applied to one more part. -/
def apply {α β : Type} (first : Checked (α → β)) (second : Checked α) : Checked β :=
  and (fun f a => f a) first second

end Checked

end ChartBoard.Form
