import ChartBoard.Text.Blank
import ChartBoard.Text.Folded

/-!
# Replacing matches

A text is gone through from left to right; where a match starts it is replaced as a whole, and the
search goes on behind it.

* `replaced` does so for any way of telling how long the match at a place is.
* `spanSize`, `runSize` and `headingSize` are such ways.
-/

namespace ChartBoard.Text

/-- The length of the match at the start of a text, given the character before it. -/
abbrev MatchSize := Option Char → List Char → Option Nat

/-- The rest of a text with its matches replaced, once `skip` more characters are left out. -/
def replacedFrom (size? : MatchSize) (new : List Char) :
    (skip : Nat) → (before : Option Char) → List Char → List Char
  | _, _, [] => []
  | skip + 1, _, c :: cs => replacedFrom size? new skip (some c) cs
  | 0, before, c :: cs =>
    match size? before (c :: cs) with
    | some (n + 1) => new ++ replacedFrom size? new n (some c) cs
    | _ => c :: replacedFrom size? new 0 (some c) cs

/-- A text with its matches replaced. -/
def replaced (size? : MatchSize) (new : List Char) (cs : List Char) : List Char :=
  replacedFrom size? new 0 none cs

/-- The length of what starts with one word and goes to the next occurrence of another. -/
def spanSize (opening closing : List Char) : MatchSize := fun _ cs =>
  (startsWithFolded? opening cs).bind fun rest =>
    (splitFolded? closing rest).map fun (inside, _) =>
      opening.length + inside.length + closing.length

/-- The length of a run of one character, if it is long enough. -/
def runSize (c : Char) (least : Nat) : MatchSize := fun _ cs =>
  let n := (cs.takeWhile (· == c)).length
  if least ≤ n then some n else none

/-- The length of a word. -/
def wordSize (word : List Char) : MatchSize := fun _ cs =>
  (startsWithFolded? word cs).map fun _ => word.length

/-- The length of the mark of a heading: up to six number signs at the start of a line and the
blanks behind them. -/
def headingSize : MatchSize := fun before cs =>
  let marks := (cs.takeWhile (· == '#')).length
  let blanks := ((cs.drop marks).takeWhile isBlank).length
  if (before == none || before == some '\n') && 1 ≤ marks && marks ≤ 6 && 1 ≤ blanks then
    some (marks + blanks)
  else none

end ChartBoard.Text
