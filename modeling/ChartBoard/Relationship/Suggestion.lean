import ChartBoard.Relationship.Edge
import ChartBoard.Settings
import ChartBoard.Text.Blank
import ChartBoard.Text.Case
import ChartBoard.Text.Search

/-!
# Suggested edges

Columns of different tables with the same identifier-like name probably belong together.

* `Matcher` says which names look like identifiers.
* `suggestionsBy` proposes an edge for every pair of columns whose names agree and are accepted,
  unless a confirmed edge joins them; `suggestions` accepts what a matcher does.
-/

namespace ChartBoard.Relationship

/-- What names of identifiers end with, and what they contain. -/
structure Matcher where
  suffixes : List String
  infixes : List String
deriving DecidableEq, Repr

/-- True of a normalized name that looks like an identifier. -/
def Matcher.accepts (m : Matcher) (name : String) : Bool :=
  m.suffixes.any (Text.endsWith name) || m.infixes.any (Text.contains name)

/-- The matcher that the settings describe. -/
def Matcher.ofSettings (s : Settings) : Matcher := ⟨s.identifierSuffixes, s.identifierInfixes⟩

/-- A column name in lower case without blanks and hyphens. -/
def normalizedName (name : String) : String :=
  Text.without (fun c => Text.isBlank c || c == '-') (Text.lower name)

/-- A suggested edge between two columns. -/
def suggestedEdge (t₁ : Schema.Table) (c₁ : Schema.Column) (t₂ : Schema.Table)
    (c₂ : Schema.Column) : Edge :=
  ⟨⟨t₁.name, c₁.name⟩, ⟨t₂.name, c₂.name⟩, .text suggestedStatus, .text defaultCardinality⟩

/-- The edges between columns of two tables whose names agree and are accepted. -/
def candidatesBetween (accepts : String → Bool) (t₁ t₂ : Schema.Table) : List Edge :=
  t₁.columns.flatMap fun c₁ => t₂.columns.filterMap fun c₂ =>
    let n := normalizedName c₁.name
    if n == normalizedName c₂.name && accepts n then some (suggestedEdge t₁ c₁ t₂ c₂) else none

/-- The candidate edges between any two tables, an earlier one first. -/
def candidates (accepts : String → Bool) : List Schema.Table → List Edge
  | [] => []
  | t :: rest => rest.flatMap (candidatesBetween accepts t) ++ candidates accepts rest

/-- The edges found so far with one more, unless it is known already. -/
def addCandidate (confirmed found : List Edge) (e : Edge) : List Edge :=
  if containsEdge found e || containsEdge confirmed e then found else found ++ [e]

/-- The edges to suggest: every candidate once that no confirmed edge covers. -/
def suggestionsBy (accepts : String → Bool) (tables : List Schema.Table) (edges : List Edge) :
    List Edge :=
  (candidates accepts tables).foldl (addCandidate (confirmedOf edges)) []

/-- The edges to suggest for names that look like identifiers. -/
def suggestions (m : Matcher) (tables : List Schema.Table) (edges : List Edge) : List Edge :=
  suggestionsBy m.accepts tables edges

end ChartBoard.Relationship
