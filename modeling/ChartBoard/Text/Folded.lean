import ChartBoard.Text.Case

/-!
# Searching regardless of case

* `startsWithFolded?` removes a given start and `splitFolded?` cuts a text at a word, both
  regardless of the case of letters.  Words are written in small letters.
-/

namespace ChartBoard.Text

/-- True when a character is a given one, or differs from a given letter only by case. -/
def sameFolded (w c : Char) : Bool := if w.isAlpha then sameLetter w c else w == c

/-- What follows `word` in `cs`, when `cs` starts with it. -/
def startsWithFolded? : (word cs : List Char) → Option (List Char)
  | [], cs => some cs
  | _ :: _, [] => none
  | w :: ws, c :: cs => if sameFolded w c then startsWithFolded? ws cs else none

/-- The text before and after the first occurrence of `word`. -/
def splitFolded? (word : List Char) : (cs : List Char) → Option (List Char × List Char)
  | [] => if word.isEmpty then some ([], []) else none
  | c :: cs =>
    match startsWithFolded? word (c :: cs) with
    | some rest => some ([], rest)
    | none => (splitFolded? word cs).map fun (before, rest) => (c :: before, rest)

/-- The text between the first occurrence of one word and the next of another. -/
def between? (opening closing : List Char) (cs : List Char) : Option (List Char) :=
  (splitFolded? opening cs).bind fun (_, rest) => (splitFolded? closing rest).map (·.1)

end ChartBoard.Text
