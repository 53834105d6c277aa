import ChartBoard.Assistant.Extraction
import ChartBoard.Text.Replaced

/-!
# Answers for the eye

* `clean` leaves out what is not meant to be read: tagged parts, fences, emphasis and headings.
* `compact` keeps the first lines of a text.
-/

namespace ChartBoard.Assistant

open Text

/-- Three backquotes. -/
def fence : List Char := ['\x60', '\x60', '\x60']

/-- An answer without tagged parts, fences, marks of emphasis and of headings, and with at most one
empty line in a row. -/
def cleanChars (cs : List Char) : List Char :=
  let withoutSql := replaced (spanSize (openingTag "sql") (closingTag "sql")) [] cs
  let withoutCharts := replaced (spanSize (openingTag "chart") (closingTag "chart")) [] withoutSql
  let withoutFences := replaced (spanSize fence fence) [] withoutCharts
  let plain := replaced headingSize [] (replaced (wordSize ['*', '*']) [] withoutFences)
  trimChars (replaced (runSize '\n' 3) ['\n', '\n'] plain)

/-- An answer as it is meant to be read. -/
def clean (answer : String) : String := String.ofList (cleanChars answer.toList)

/-- The lines of a text that are not blank, trimmed, up to a number of them. -/
def firstLines (maxLines : Int) (cs : List Char) : List (List Char) :=
  capped maxLines (((pieces '\n' cs).map trimChars).filter (!·.isEmpty))

/-- The lines with line feeds between them. -/
def joinedLines (lines : List (List Char)) : List Char := ['\n'].intercalate lines

/-- The first lines of a text.  If they are too long, they are cut and end in three points. -/
def compact (maxLines maxChars : Int) (s : String) : String :=
  let joined := joinedLines (firstLines maxLines s.toList)
  if maxChars < joined.length then String.ofList (capped (maxChars - 1) joined) ++ "..."
  else String.ofList joined

end ChartBoard.Assistant
