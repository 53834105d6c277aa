import ChartBoard.Text.Blank
import ChartBoard.Text.CaseTable

/-!
# Lower and upper case

Whole-text case mappings.  A character may map to several, and a capital sigma at the end of
a word takes its final form.

* `lower` and `upper` map texts.
* `sameLetter` compares one character with a small ASCII letter regardless of case.
-/

namespace ChartBoard.Text

/-- The image of a character under the runs that map one character to one. -/
def shiftChar (runs : List CaseRun) (c : Char) : Char :=
  match runs with
  | [] => c
  | run :: rest =>
    if c.toNat < run.first then c
    else if c.toNat ≤ run.last && (c.toNat - run.first) % run.step == 0 then
      Char.ofNat ((c.toNat : Int) + run.shift).toNat
    else shiftChar rest c

/-- The lower case of one character outside a word. -/
def lowerChar (c : Char) : List Char :=
  if c.toNat < 0x80 then [c.toLower]
  else if c.toNat = 0x130 then ['i', Char.ofNat 0x307]
  else [shiftChar lowerRuns c]

/-- The upper case of one character. -/
def upperChar (c : Char) : List Char :=
  if c.toNat < 0x80 then [c.toUpper]
  else match upperExpansions.find? (·.1 == c.toNat) with
    | some (_, image) => image.map Char.ofNat
    | none => [shiftChar upperRuns c]

/-- True of a character passed over when looking for a neighbour with case. -/
def isCaseIgnorable (c : Char) : Bool := inRanges caseIgnorableRanges c

/-- True of a character with case that is never passed over. -/
def isCased (c : Char) : Bool := inRanges casedRanges c

/-- True when the next character that is not passed over has case. -/
def startsCased (cs : List Char) : Bool :=
  match cs.dropWhile isCaseIgnorable with
  | [] => false
  | c :: _ => isCased c

/-- Lower case of the rest of a text; `inWord` says whether a letter with case came before. -/
def lowerFrom (inWord : Bool) : List Char → List Char
  | [] => []
  | c :: rest =>
    let image :=
      if c.toNat = 0x3a3 then
        [Char.ofNat (if inWord && !startsCased rest then 0x3c2 else 0x3c3)]
      else lowerChar c
    image ++ lowerFrom (if isCaseIgnorable c then inWord else isCased c) rest

/-- The text in lower case. -/
def lower (s : String) : String := String.ofList (lowerFrom false s.toList)

/-- The text in upper case. -/
def upper (s : String) : String := String.ofList (s.toList.flatMap upperChar)

/-- True when `c` is the small ASCII letter `letter`, its capital, or a character that differs
from them only by case: dotted and dotless i, long s and the kelvin sign. -/
def sameLetter (letter c : Char) : Bool :=
  (lowerChar c).head? == some letter
    || (letter == 'i' && c.toNat == 0x131) || (letter == 's' && c.toNat == 0x17f)

end ChartBoard.Text
