/-!
# Blank characters and trimming

Character classes are kept as ascending lists of inclusive ranges.  A look-up stops at the first
range that ends at or after the character.  Blank are the characters with the white-space property
and the four information separators U+001C to U+001F: 29 characters in all.

* `inRanges` is the class of some ranges.
* `isBlank` is the class of blank characters.
* `trim` removes blanks at both ends.
-/

namespace ChartBoard.Text

/-- True when the character lies in one of the ranges, which ascend and do not overlap. -/
def inRanges : List (Nat × Nat) → Char → Bool
  | [], _ => false
  | (first, last) :: rest, c =>
    if c.toNat ≤ last then first ≤ c.toNat else inRanges rest c

/-- The ranges of blank characters, ascending. -/
def blankRanges : List (Nat × Nat) :=
  [(0x9, 0xd), (0x1c, 0x20), (0x85, 0x85), (0xa0, 0xa0), (0x1680, 0x1680), (0x2000, 0x200a),
   (0x2028, 0x2029), (0x202f, 0x202f), (0x205f, 0x205f), (0x3000, 0x3000)]

/-- True of a character that counts as space. -/
def isBlank (c : Char) : Bool := inRanges blankRanges c

/-- The text without the blanks at its start. -/
def trimStart (cs : List Char) : List Char := cs.dropWhile isBlank

/-- The text without the characters at its end that satisfy `p`. -/
def dropEndWhile (p : Char → Bool) (cs : List Char) : List Char :=
  (cs.reverse.dropWhile p).reverse

/-- The text without the blanks at its end. -/
def trimEnd (cs : List Char) : List Char := dropEndWhile isBlank cs

/-- The characters without the blanks at both ends. -/
def trimChars (cs : List Char) : List Char := trimEnd (trimStart cs)

/-- The text without the blanks at both ends. -/
def trim (s : String) : String := String.ofList (trimChars s.toList)

end ChartBoard.Text
