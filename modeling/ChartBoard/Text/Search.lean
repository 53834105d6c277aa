/-!
# Searching and replacing

Literal searches over lists of characters.

* `startsWith?` removes a given start, `split?` cuts a text at the first occurrence of a word.
* `doubled` writes one chosen character twice, and `without` removes a class of characters.
* `capped` cuts a text to a number of characters, as a slice with a possibly negative end.
-/

namespace ChartBoard.Text

/-- What follows `word` in `cs`, when `cs` starts with it. -/
def startsWith? : (word cs : List Char) → Option (List Char)
  | [], cs => some cs
  | _ :: _, [] => none
  | w :: ws, c :: cs => if w = c then startsWith? ws cs else none

/-- The text before and after the first occurrence of `word`. -/
def split? (word : List Char) : (cs : List Char) → Option (List Char × List Char)
  | [] => if word.isEmpty then some ([], []) else none
  | c :: cs =>
    match startsWith? word (c :: cs) with
    | some rest => some ([], rest)
    | none => (split? word cs).map fun (before, rest) => (c :: before, rest)

/-- True when `word` occurs in `cs`. -/
def occurs (word cs : List Char) : Bool := (split? word cs).isSome

/-- True when `word` occurs in `s`. -/
def contains (s word : String) : Bool := occurs word.toList s.toList

/-- True when `s` ends with `word`. -/
def endsWith (s word : String) : Bool := (startsWith? word.toList.reverse s.toList.reverse).isSome

/-- The characters with every `quote` written twice. -/
def doubledChars (quote : Char) : List Char → List Char
  | [] => []
  | c :: rest =>
    if c = quote then c :: c :: doubledChars quote rest else c :: doubledChars quote rest

/-- The text with every `quote` written twice. -/
def doubled (quote : Char) (s : String) : String := String.ofList (doubledChars quote s.toList)

/-- The text without the characters that satisfy `p`. -/
def without (p : Char → Bool) (s : String) : String := String.ofList (s.toList.filter (!p ·))

/-- The pieces between the occurrences of one character. -/
def pieces (sep : Char) : List Char → List (List Char)
  | [] => [[]]
  | c :: cs =>
    match pieces sep cs with
    | [] => [[c]]
    | piece :: rest => if c = sep then [] :: piece :: rest else (c :: piece) :: rest

/-- The first `n` elements for `n ≥ 0`; for a negative `n`, all but the last `-n`. -/
def capped {α : Type} (n : Int) (xs : List α) : List α :=
  if n < 0 then xs.take (xs.length - n.natAbs) else xs.take n.toNat

/-- The texts joined with `sep` between them. -/
def join (sep : String) (parts : List String) : String := sep.intercalate parts

end ChartBoard.Text
