/-!
# Lines of a text

A line ends at any of eleven separators; a carriage return followed by a line feed is one of
them.  A separator at the end of the text opens no further line.

* `lines` gives the lines without their ends.
-/

namespace ChartBoard.Text

/-- True of a character that ends a line. -/
def endsLine (c : Char) : Bool :=
  c.val == 0xa || c.val == 0xb || c.val == 0xc || c.val == 0xd || c.val == 0x1c
    || c.val == 0x1d || c.val == 0x1e || c.val == 0x85 || c.val == 0x2028 || c.val == 0x2029

/-- The lines of the rest of a text; `line` holds the current one backwards. -/
def linesFrom (line : List Char) : List Char → List (List Char)
  | [] => if line.isEmpty then [] else [line.reverse]
  | '\r' :: '\n' :: rest => line.reverse :: linesFrom [] rest
  | c :: rest =>
    if endsLine c then line.reverse :: linesFrom [] rest else linesFrom (c :: line) rest

/-- The lines of a text, without the characters that end them. -/
def lines (s : String) : List String := (linesFrom [] s.toList).map String.ofList

end ChartBoard.Text
