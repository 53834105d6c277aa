import ChartBoard.Text.Printable

/-!
# Quoted text

A text inside a list or an object is shown between quotes.  Single quotes are used unless the
text holds a single quote and no double quote.  The quote in use, the backslash and three
control characters are escaped by a backslash, other unprintable characters by their number.

* `quoted` writes a text so.
-/

namespace ChartBoard.Text

/-- The lower-case hexadecimal digits of `n`, at least `width` of them. -/
def hexDigits (width n : Nat) : String :=
  let digits := Nat.toDigits 16 n
  String.ofList (List.replicate (width - digits.length) '0' ++ digits)

/-- The number escape of an unprintable character: two, four or eight digits. -/
def numberEscape (c : Char) : String :=
  if c.toNat < 0x100 then "\\x" ++ hexDigits 2 c.toNat
  else if c.toNat < 0x10000 then "\\u" ++ hexDigits 4 c.toNat
  else "\\U" ++ hexDigits 8 c.toNat

/-- One character of a text quoted with `quote`. -/
def quotedChar (quote c : Char) : String :=
  if c = quote || c = '\\' then String.ofList ['\\', c]
  else if c = '\n' then "\\n"
  else if c = '\r' then "\\r"
  else if c = '\t' then "\\t"
  else if isPrintable c then c.toString
  else numberEscape c

/-- The text between quotes, with what cannot stand for itself escaped. -/
def quoted (s : String) : String :=
  let quote := if s.toList.contains '\x27' && !s.toList.contains '\x22' then '\x22' else '\x27'
  quote.toString ++ String.join (s.toList.map (quotedChar quote)) ++ quote.toString

end ChartBoard.Text
