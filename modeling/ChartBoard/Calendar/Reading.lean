import ChartBoard.Calendar.Moment

/-!
# Reading dates and moments

The written forms of a moment: a date by month or by week, with hyphens or without; then any one
separator and a time, with colons or without; then an offset.  Digits are ASCII digits.  Positions
count places, of which a character beyond ASCII takes more than one, and a NUL after a time ends
the text.

* `places` spreads a text over its places.
* `dateEnd` says where the date ends, `readDate?` reads it.
* `readClock?` reads two-digit units and a fraction of a second.
* `Moment.read?` reads the whole.
-/

namespace ChartBoard.Calendar

/-- The places of a text.  A character takes as many as its encoding has bytes, and stands in each
of them. -/
def places (s : String) : List Char := s.toList.flatMap fun c => List.replicate c.utf8Size c

/-- True where nothing more is to be read. -/
def atEnd : List Char → Bool
  | [] => true
  | c :: _ => c == '\x00'

/-- The value of an ASCII digit. -/
def asciiDigit? (c : Char) : Option Nat := if c.isDigit then some (c.toNat - 0x30) else none

/-- The number that exactly `n` digits at the start of a text spell. -/
def readFixed? : (n : Nat) → (value : Nat) → List Char → Option (Nat × List Char)
  | 0, value, cs => some (value, cs)
  | _ + 1, _, [] => none
  | n + 1, value, c :: cs =>
    match asciiDigit? c with
    | some d => readFixed? n (value * 10 + d) cs
    | none => none

/-! ## Dates -/

/-- The position of the character after the date.  Seven characters are a date by themselves.
With a hyphen after the year the date has ten characters, or eight when it names a week without
a day; a week without hyphens has seven or eight, whichever leaves an even number of digits for
the time. -/
def dateEnd (cs : List Char) : Nat :=
  if cs.length = 7 then 7
  else if cs[4]? = some '-' then
    if cs[5]? = some 'W' then
      if cs[8]? = some '-' then
        if (cs[10]?.map Char.isDigit).getD false then 8 else 10
      else 8
    else 10
  else if cs[4]? = some 'W' then
    let stop := 7 + ((cs.drop 7).takeWhile Char.isDigit).length
    if stop < 9 then stop else if stop % 2 = 0 then 7 else 8
  else 8

/-- What follows an expected hyphen, or the same text where no hyphen is expected. -/
def skipHyphen? (expected : Bool) : List Char → Option (List Char)
  | c :: cs => if expected then (if c = '-' then some cs else none) else some (c :: cs)
  | [] => if expected then none else some []

/-- A week and a day, after the letter of weeks. -/
def readWeek? (year : Nat) (hyphens : Bool) (cs : List Char) : Option Date := do
  let (week, rest) ← readFixed? 2 0 cs
  if rest.isEmpty then Date.ofWeek? year week 1
  else
    let rest ← skipHyphen? hyphens rest
    let (day, _) ← readFixed? 1 0 rest
    Date.ofWeek? year week day

/-- A month and a day. -/
def readMonthDay? (year : Nat) (hyphens : Bool) (cs : List Char) : Option Date := do
  let (month, rest) ← readFixed? 2 0 cs
  let rest ← skipHyphen? hyphens rest
  let (day, rest) ← readFixed? 2 0 rest
  if rest.isEmpty then Date.ofNumbers? year month day else none

/-- The date that a text spells. -/
def readDate? (cs : List Char) : Option Date := do
  let (year, rest) ← readFixed? 4 0 cs
  match rest with
  | '-' :: 'W' :: rest => readWeek? year true rest
  | '-' :: rest => readMonthDay? year true rest
  | 'W' :: rest => readWeek? year false rest
  | rest => readMonthDay? year false rest

/-! ## Times -/

/-- A time as read: its units and its fraction.  `leftOver` tells that characters remain before
the end of the text. -/
structure ReadClock where
  units : List Nat
  microsecond : Nat
  leftOver : Bool

/-- A fraction of a second: six digits count and further ones are passed over. -/
def readFraction? (more : Bool) (units : List Nat) (cs : List Char) : Option ReadClock := do
  let size := min 6 cs.length
  let (value, rest) ← readFixed? size 0 cs
  let rest := rest.dropWhile Char.isDigit
  some ⟨units, value * Number.power 10 (6 - size), if rest.isEmpty then more else !atEnd rest⟩

/-- Up to `left` more units of two digits, with colons between them or without, then a fraction.
A last single character after a unit is left over, unless it is a NUL. -/
def readUnits? (more colons : Bool) : (left : Nat) → (units : List Nat) → List Char →
    Option ReadClock
  | 0, units, cs => readFraction? more units cs
  | left + 1, units, cs => do
    let (value, rest) ← readFixed? 2 0 cs
    let units := units ++ [value]
    match rest with
    | [] => some ⟨units, 0, more⟩
    | [c] => some ⟨units, 0, !atEnd [c]⟩
    | c :: after =>
      let colons := if units.length = 1 then c == ':' else colons
      if colons && c == ':' then readUnits? more colons left units after
      else if c == '.' || c == ',' then readFraction? more units after
      else if colons then none
      else readUnits? more colons left units (c :: after)

/-- The hours, minutes, seconds and fraction of a text; `more` says whether text follows it. -/
def readClock? (more : Bool) (cs : List Char) : Option ReadClock := readUnits? more false 3 [] cs

/-- The number of seconds that the units make up. -/
def ReadClock.seconds (r : ReadClock) : Nat :=
  r.units.getD 0 0 * 3600 + r.units.getD 1 0 * 60 + r.units.getD 2 0

/-- The time of day, if the units are in range. -/
def ReadClock.clock? (r : ReadClock) : Option Clock :=
  Clock.ofParts? (r.units.getD 0 0) (r.units.getD 1 0) (r.units.getD 2 0) r.microsecond

/-- An offset after its sign.  Whole seconds of zero mean universal time whatever the
fraction. -/
def readOffset? (negative : Bool) (cs : List Char) : Option Offset := do
  let read ← readClock? false cs
  if read.leftOver then none
  else if read.seconds = 0 then Offset.ofMicroseconds? 0
  else
    let n : Int := read.seconds * 1000000 + read.microsecond
    Offset.ofMicroseconds? (if negative then -n else n)

/-- True of a character that starts an offset. -/
def startsOffset (c : Char) : Bool := c == '+' || c == '-' || c == 'Z'

/-- A time with its offset. -/
def readTime? (cs : List Char) : Option (Clock × Option Offset) := do
  let body := cs.takeWhile (!startsOffset ·)
  match cs.dropWhile (!startsOffset ·) with
  | [] =>
    let read ← readClock? false body
    if read.leftOver then none else return (← read.clock?, none)
  | sign :: zone =>
    let read ← readClock? true body
    let offset ←
      if sign = 'Z' then (if atEnd zone then Offset.ofMicroseconds? 0 else none)
      else readOffset? (sign == '-') zone
    return (← read.clock?, some offset)

/-- The moment that a text spells.  A date alone means its midnight. -/
def Moment.read? (s : String) : Option Moment :=
  let cs := places s
  if cs.length < 7 then none
  else do
    let stop := dateEnd cs
    let date ← readDate? (cs.take stop)
    match cs.drop stop with
    | [] => some (.ofDate date)
    | separator :: time =>
      let (clock, offset) ← readTime? (time.drop (separator.utf8Size - 1))
      some ⟨date, clock, offset⟩

/-- The date that a text spells, with nothing after it. -/
def Date.read? (s : String) : Option Date :=
  let cs := s.toList
  if dateEnd cs = cs.length then readDate? cs else none

/-- The time of day that a text spells. -/
def Clock.read? (s : String) : Option Clock := (readTime? s.toList).map (·.1)

end ChartBoard.Calendar
