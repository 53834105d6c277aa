import ChartBoard.Fault
import ChartBoard.Json.Reading
import ChartBoard.Settings
import ChartBoard.Text.Folded
import ChartBoard.Text.Search
import ChartBoard.Text.Blank

/-!
# Statements and charts in answers

What a language model's free-form answer holds.

* `statement?` finds a statement: between tags, in a fence, or the whole answer when it is a short
  query.
* `chart` finds the description of a chart: between tags, or in a fence when it looks like one.
-/

namespace ChartBoard.Assistant

open Text

/-- The word that opens a part of an answer. -/
def openingTag (name : String) : List Char := ("[" ++ name ++ "]").toList

/-- The word that closes a part of an answer. -/
def closingTag (name : String) : List Char := ("[/" ++ name ++ "]").toList

/-- The text between the first pair of tags of a name. -/
def tagged? (name : String) (cs : List Char) : Option (List Char) :=
  between? (openingTag name) (closingTag name) cs

/-- The end of a fence: a line that starts with three backquotes. -/
def fenceEnd : List Char := ['\n', '\x60', '\x60', '\x60']

/-- The body of a fence, given what follows its opening word: blanks up to the end of a line, the
last one that leaves a body, and then all up to the end of the fence. -/
def fenceBody? : List Char → Option (List Char)
  | [] => none
  | c :: rest =>
    if isBlank c then
      match fenceBody? rest with
      | some body => some body
      | none => if c = '\n' then (split? fenceEnd rest).map (·.1) else none
    else none

/-- The body of the first fence that some word opens. -/
def fenced? (word : List Char) : List Char → Option (List Char)
  | [] => none
  | c :: rest =>
    match (startsWithFolded? (['\x60', '\x60', '\x60'] ++ word) (c :: rest)).bind fenceBody? with
    | some body => some body
    | none => fenced? word rest

/-! ## Statements -/

/-- The words that statements start with. -/
def statementVerbs : List String :=
  ["select", "insert", "update", "delete", "with", "create", "drop", "alter"]

/-- The words that queries start with. -/
def queryVerbs : List String := ["select", "with"]

/-- What follows the first of some words that a text starts with. -/
def afterVerb? (verbs : List String) (cs : List Char) : Option (List Char) :=
  verbs.findSome? fun verb => startsWithFolded? verb.toList cs

/-- The number of lines from which on a text is too long to be taken for a query. -/
def longQuery : Nat := 15

/-- The whole answer, when it is a short query. -/
def bareQuery? (cs : List Char) : Option (List Char) :=
  let query := trimChars cs
  match afterVerb? queryVerbs query with
  | some (c :: _) =>
    if isBlank c && (pieces '\n' query).length < longQuery then some query else none
  | _ => none

/-- The body of the first fence without a word, when it is a statement. -/
def fencedStatement? (cs : List Char) : Option (List Char) :=
  ((fenced? [] cs).map trimChars).filter fun body => (afterVerb? statementVerbs body).isSome

/-- The statement in an answer. -/
def statementChars? (cs : List Char) : Option (List Char) :=
  match tagged? "sql" cs with
  | some body => some (trimChars body)
  | none =>
    match fenced? "sql".toList cs with
    | some body => some (trimChars body)
    | none =>
      match fencedStatement? cs with
      | some body => some body
      | none => bareQuery? cs

/-- The statement in an answer. -/
def statement? (answer : String) : Option String :=
  (statementChars? answer.toList).map String.ofList

/-! ## Charts -/

/-- The members of which a description of a chart has at least one. -/
def chartMembers : List String := ["series", "xAxis", "title", "kpi"]

/-- The value that a text spells once it is trimmed, null when it spells none.  A number with too
many digits and too many levels are faults. -/
def spelled (limits : Limits) (cs : List Char) : Except Fault Datum :=
  match Json.read limits.reading (String.ofList (trimChars cs)) with
  | .ok v => .ok v
  | .error .malformed => .ok .null
  | .error (.tooManyDigits count) => .error (.tooManyDigits (some count))
  | .error (.tooDeep object) => .error (.tooDeep object)

/-- An object that looks like a chart, null for all else. -/
def chartLike (v : Datum) : Datum :=
  if v.isObject && chartMembers.any fun name => (v.get name).truthy then v else .null

/-- The description of a chart in an answer; null when there is none. -/
def chart (limits : Limits) (answer : String) : Except Fault Datum :=
  match tagged? "chart" answer.toList with
  | some body => spelled limits body
  | none =>
    match fenced? "json".toList answer.toList with
    | some body => (spelled limits body).map chartLike
    | none => .ok .null

end ChartBoard.Assistant
