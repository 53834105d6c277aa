import ChartBoard.Calendar.Reading
import ChartBoard.Proofs.Number.Padded
import ChartBoard.Proofs.Text.Blank
import Mathlib.Data.List.TakeWhile
import Mathlib.Tactic.IntervalCases

/-!
# Reading what was written

The readers of dates and times, on texts that the library has written itself.

* `mem_isoCharacters` says which characters moments are written with, so that each of them takes one
  place.
* `readDate?_iso` and `readClock?_iso` read dates and times back.
* `Moment.read?_iso` reads a moment without an offset back, so that `Moment.iso_inj` tells moments
  apart.  `Moment.exists_read?_iso` says what is read of a moment with any offset.
-/

namespace ChartBoard.Calendar

open Number (padded length_padded isDigit_of_mem_padded mem_digitCharacters ofDigitChars_padded)
open Text (forall_mem_of_all)

/-! ## Ranges -/

theorem daysInMonth_le (year month : Nat) : daysInMonth year month ≤ 31 := by
  unfold daysInMonth
  split
  · split <;> omega
  · split
    · omega
    · split <;> omega

theorem month_of_daysInMonth_pos {year month : Nat} (h : 0 < daysInMonth year month) :
    1 ≤ month ∧ month ≤ 12 := by
  unfold daysInMonth at h
  simp only [Bool.or_eq_true, Bool.and_eq_true, decide_eq_true_eq] at h
  split at h
  · omega
  · split at h
    · omega
    · split at h <;> omega

namespace Date

theorem month_mem (d : Date) : 1 ≤ d.month ∧ d.month ≤ 12 := by
  have hday := d.exists_
  simp only [isDay, Bool.and_eq_true, decide_eq_true_eq] at hday
  have hlength : 0 < daysInMonth d.year d.month := by omega
  exact month_of_daysInMonth_pos hlength

theorem year_mem (d : Date) : 1 ≤ d.year ∧ d.year ≤ 9999 := by
  have hday := d.exists_
  simp only [isDay, Bool.and_eq_true, decide_eq_true_eq] at hday
  omega

theorem day_mem (d : Date) : 1 ≤ d.day ∧ d.day ≤ daysInMonth d.year d.month := by
  have hday := d.exists_
  simp only [isDay, Bool.and_eq_true, decide_eq_true_eq] at hday
  omega

/-- The parts of a date fit the width in which they are written. -/
theorem fits (d : Date) : d.year < 10 ^ 4 ∧ d.month < 10 ^ 2 ∧ d.day < 10 ^ 2 := by
  have hday := d.exists_
  have hmonth := d.month_mem
  have hlength := daysInMonth_le d.year d.month
  simp only [isDay, Bool.and_eq_true, decide_eq_true_eq] at hday
  omega

end Date

/-! ## Digits -/

theorem asciiDigit?_of_isDigit {c : Char} (h : c.isDigit = true) :
    asciiDigit? c = some (c.toNat - 0x30) := if_pos h

/-- Digits are read from the left, as positional notation has it. -/
theorem readFixed?_append {cs : List Char} (h : ∀ c ∈ cs, c.isDigit = true) (value : Nat)
    (rest : List Char) :
    readFixed? cs.length value (cs ++ rest) = some (Nat.ofDigitChars 10 cs value, rest) := by
  induction cs generalizing value with
  | nil => rfl
  | cons c cs ih =>
    have hvalue : value * 10 + (c.toNat - 0x30) = 10 * value + (c.toNat - '0'.toNat) := by
      rw [Nat.mul_comm]
      rfl
    rw [List.length_cons, List.cons_append, readFixed?, asciiDigit?_of_isDigit (h c (by simp))]
    dsimp only
    rw [hvalue, ih fun d hd => h d (List.mem_cons_of_mem c hd), Nat.ofDigitChars_cons]

theorem readFixed?_padded {width n : Nat} (hwidth : 0 < width) (h : n < 10 ^ width)
    (rest : List Char) : readFixed? width 0 ((padded width n).toList ++ rest) = some (n, rest) := by
  have hdigits : ∀ c ∈ (padded width n).toList, c.isDigit = true := fun _ => isDigit_of_mem_padded
  have hread := readFixed?_append hdigits 0 rest
  rwa [length_padded hwidth h, ofDigitChars_padded] at hread

theorem exists_padded_eq_cons {width n : Nat} (hwidth : 0 < width) (h : n < 10 ^ width) :
    ∃ c cs, (padded width n).toList = c :: cs ∧ c.isDigit = true := by
  obtain ⟨c, cs, hcs⟩ := List.exists_cons_of_length_pos (by rwa [length_padded hwidth h])
  exact ⟨c, cs, hcs, isDigit_of_mem_padded (hcs ▸ List.mem_cons_self)⟩

/-! ## Characters -/

/-- The characters that times of day are written with. -/
def clockCharacters : List Char :=
  ['0', '1', '2', '3', '4', '5', '6', '7', '8', '9', ':', '.']

/-- The characters that moments are written with. -/
def isoCharacters : List Char := clockCharacters ++ ['-', '+', 'T']

theorem mem_clockCharacters_of_isDigit {c : Char} (h : c.isDigit = true) :
    c ∈ clockCharacters := List.mem_append_left [':', '.'] (mem_digitCharacters h)

theorem padded_characters (width n : Nat) : ∀ c ∈ (padded width n).toList, c ∈ clockCharacters :=
  fun _ hc => mem_clockCharacters_of_isDigit (isDigit_of_mem_padded hc)

theorem fractionText_characters (n : Nat) : ∀ c ∈ (fractionText n).toList, c ∈ clockCharacters := by
  unfold fractionText
  split
  · simp
  · rw [String.toList_append, List.forall_mem_append]
    exact ⟨forall_mem_of_all (by decide), padded_characters 6 n⟩

theorem colon_characters : ∀ c ∈ ":".toList, c ∈ clockCharacters := forall_mem_of_all (by decide)

theorem Clock.characters (k : Clock) : ∀ c ∈ k.iso.toList, c ∈ clockCharacters := by
  simp only [Clock.iso, String.toList_append, List.forall_mem_append]
  exact ⟨⟨⟨⟨⟨padded_characters 2 _, colon_characters⟩, padded_characters 2 _⟩, colon_characters⟩,
    padded_characters 2 _⟩, fractionText_characters _⟩

theorem isoCharacters_of_clock {cs : List Char} (h : ∀ c ∈ cs, c ∈ clockCharacters) :
    ∀ c ∈ cs, c ∈ isoCharacters := fun c hc => List.mem_append_left _ (h c hc)

theorem Date.characters (d : Date) : ∀ c ∈ d.iso.toList, c ∈ isoCharacters := by
  have hpart (width n : Nat) := isoCharacters_of_clock (padded_characters width n)
  have hhyphen : ∀ c ∈ "-".toList, c ∈ isoCharacters := forall_mem_of_all (by decide)
  simp only [Date.iso, String.toList_append, List.forall_mem_append]
  exact ⟨⟨⟨⟨hpart 4 _, hhyphen⟩, hpart 2 _⟩, hhyphen⟩, hpart 2 _⟩

theorem Offset.characters (o : Offset) : ∀ c ∈ o.iso.toList, c ∈ isoCharacters := by
  have hpart (width n : Nat) := isoCharacters_of_clock (padded_characters width n)
  have hcolon := isoCharacters_of_clock colon_characters
  simp only [Offset.iso, String.toList_append, List.forall_mem_append]
  refine ⟨⟨⟨⟨?_, hpart 2 _⟩, hcolon⟩, hpart 2 _⟩, ?_⟩
  · split <;> exact forall_mem_of_all (by decide)
  · split
    · simp
    · simp only [String.toList_append, List.forall_mem_append]
      exact ⟨⟨hcolon, hpart 2 _⟩, isoCharacters_of_clock (fractionText_characters _)⟩

theorem Moment.characters (m : Moment) : ∀ c ∈ (m.iso "T").toList, c ∈ isoCharacters := by
  have hletter : ∀ c ∈ "T".toList, c ∈ isoCharacters := forall_mem_of_all (by decide)
  simp only [Moment.iso, String.toList_append, List.forall_mem_append]
  refine ⟨⟨⟨m.date.characters, hletter⟩, isoCharacters_of_clock m.clock.characters⟩, ?_⟩
  cases m.offset with
  | none => simp
  | some o => exact o.characters

/-- Characters that take one place each are read one by one. -/
theorem places_eq_toList {s : String} (h : ∀ c ∈ s.toList, c.utf8Size = 1) :
    places s = s.toList := by
  have hone : s.toList.map (fun c => List.replicate c.utf8Size c) = s.toList.map fun c => [c] :=
    List.map_congr_left fun c hc => by rw [h c hc, List.replicate_one]
  rw [places, List.flatMap_def, hone, ← List.flatMap_def, List.flatMap_singleton']

theorem places_of_iso {s : String} (h : ∀ c ∈ s.toList, c ∈ isoCharacters) :
    places s = s.toList := by
  have hsize : ∀ c ∈ isoCharacters, c.utf8Size = 1 := forall_mem_of_all (by decide)
  exact places_eq_toList fun c hc => hsize c (h c hc)

/-! ## Dates -/

theorem Date.toList_iso (d : Date) : d.iso.toList =
    (padded 4 d.year).toList ++ '-' :: ((padded 2 d.month).toList ++
      '-' :: (padded 2 d.day).toList) := by
  simp [Date.iso]

theorem Date.length_iso (d : Date) : d.iso.toList.length = 10 := by
  obtain ⟨hyear, hmonth, hday⟩ := d.fits
  rw [d.toList_iso, List.length_append, List.length_cons, List.length_append, List.length_cons,
    length_padded (by decide) hyear, length_padded (by decide) hmonth,
    length_padded (by decide) hday]

theorem ofNumbers?_parts (d : Date) : Date.ofNumbers? d.year d.month d.day = some d :=
  dif_pos d.exists_

theorem readMonthDay?_iso (d : Date) :
    readMonthDay? d.year true
      ((padded 2 d.month).toList ++ '-' :: (padded 2 d.day).toList) = some d := by
  obtain ⟨-, hmonth, hday⟩ := d.fits
  have hday := readFixed?_padded (by decide) hday []
  rw [List.append_nil] at hday
  rw [readMonthDay?, readFixed?_padded (by decide) hmonth]
  simp only [Option.bind_eq_bind, Option.bind_some, skipHyphen?, if_true, hday, List.isEmpty_nil]
  exact ofNumbers?_parts d

theorem readDate?_iso (d : Date) : readDate? d.iso.toList = some d := by
  obtain ⟨hyear, hmonth, -⟩ := d.fits
  obtain ⟨c, cs, hcs, hdigit⟩ := exists_padded_eq_cons (by decide) hmonth
  have hread := readMonthDay?_iso d
  rw [d.toList_iso, readDate?, readFixed?_padded (by decide) hyear]
  rw [hcs] at hread ⊢
  simp only [Option.bind_eq_bind, Option.bind_some, List.cons_append]
  split
  · -- no week begins with a digit
    rename_i heq
    obtain ⟨rfl, -⟩ := List.cons.inj (List.cons.inj heq).2
    cases hdigit
  · rename_i heq
    obtain ⟨-, rfl⟩ := List.cons.inj heq
    exact hread
  · rename_i heq
    cases heq
  · rename_i h _
    exact absurd rfl (h _)

/-- Where a date stands first, it ends after ten characters. -/
theorem dateEnd_iso (d : Date) (rest : List Char) :
    dateEnd (d.iso.toList ++ rest) = 10 := by
  obtain ⟨hyear, hmonth, -⟩ := d.fits
  obtain ⟨c, cs, hcs, hdigit⟩ := exists_padded_eq_cons (by decide) hmonth
  have hlength : (d.iso.toList ++ rest).length ≠ 7 := by
    rw [List.length_append, d.length_iso]
    omega
  have hstart := length_padded (by decide) hyear
  have hfour : (d.iso.toList ++ rest)[4]? = some '-' := by
    rw [d.toList_iso, List.append_assoc, List.getElem?_append_right (by omega), hstart]
    rfl
  have hfive : (d.iso.toList ++ rest)[5]? = some c := by
    rw [d.toList_iso, List.append_assoc, List.getElem?_append_right (by omega), hstart, hcs]
    rfl
  have hweek : c ≠ 'W' := by
    rintro rfl
    cases hdigit
  rw [dateEnd, if_neg hlength, if_pos hfour, hfive, if_neg]
  simpa using hweek

/-! ## Times -/

section

variable {more colons : Bool} {left v : Nat} {units : List Nat} {after : List Char}

/-- A unit before a colon.  It is the first one, which says that there are colons, or that is known
already. -/
theorem readUnits?_colon (hv : v < 10 ^ 2) (hcolons : units = [] ∨ colons = true)
    (hafter : after ≠ []) :
    readUnits? more colons (left + 1) units ((padded 2 v).toList ++ ':' :: after) =
      readUnits? more true left (units ++ [v]) after := by
  obtain ⟨c, cs, rfl⟩ := List.exists_cons_of_ne_nil hafter
  rw [readUnits?, readFixed?_padded (by decide) hv]
  rcases hcolons with rfl | rfl
  · rfl
  · simp

theorem readUnits?_end (hv : v < 10 ^ 2) :
    readUnits? more colons (left + 1) units (padded 2 v).toList = some ⟨units ++ [v], 0, more⟩ := by
  have hread := readFixed?_padded (by decide) hv []
  rw [List.append_nil] at hread
  rw [readUnits?, hread]
  rfl

theorem readUnits?_point (hv : v < 10 ^ 2) (hunits : units ≠ []) (hafter : after ≠ []) :
    readUnits? more true (left + 1) units ((padded 2 v).toList ++ '.' :: after) =
      readFraction? more (units ++ [v]) after := by
  obtain ⟨c, cs, rfl⟩ := List.exists_cons_of_ne_nil hafter
  rw [readUnits?, readFixed?_padded (by decide) hv]
  simp [hunits]

theorem readFraction?_padded (hv : v < 10 ^ 6) :
    readFraction? more units (padded 6 v).toList = some ⟨units, v, more⟩ := by
  have hlength := length_padded (by decide) hv
  have hread := readFixed?_padded (by decide) hv []
  rw [List.append_nil] at hread
  rw [readFraction?, hlength]
  simp [hread, Number.power]

end

theorem Clock.toList_iso (k : Clock) : k.iso.toList =
    (padded 2 k.hour).toList ++ ':' :: ((padded 2 k.minute).toList ++
      ':' :: ((padded 2 k.second).toList ++ (fractionText k.microsecond).toList)) := by
  simp [Clock.iso]

theorem readClock?_iso (more : Bool) (k : Clock) :
    readClock? more k.iso.toList = some ⟨[k.hour, k.minute, k.second], k.microsecond, more⟩ := by
  obtain ⟨hhour, hminute, hsecond, hmicrosecond⟩ := k.inRange
  have hhour : k.hour < 10 ^ 2 := by omega
  have hminute : k.minute < 10 ^ 2 := by omega
  have hsecond : k.second < 10 ^ 2 := by omega
  obtain ⟨c, cs, hcs, -⟩ := exists_padded_eq_cons (by decide) hsecond
  rw [k.toList_iso, readClock?, readUnits?_colon hhour (.inl rfl) (by simp),
    readUnits?_colon hminute (.inr rfl) (by simp [hcs]), fractionText]
  split
  · rename_i hzero
    rw [String.toList_empty, List.append_nil, readUnits?_end hsecond, hzero]
    rfl
  · have hfits : k.microsecond < 10 ^ 6 := hmicrosecond
    obtain ⟨d, ds, hds, -⟩ := exists_padded_eq_cons (by decide) hfits
    have hpoint : ("." ++ padded 6 k.microsecond).toList =
        '.' :: (padded 6 k.microsecond).toList := by simp
    rw [hpoint, readUnits?_point hsecond (by simp) (by simp [hds]),
      readFraction?_padded hmicrosecond]
    rfl

theorem clock?_parts (k : Clock) (more : Bool) :
    ReadClock.clock? ⟨[k.hour, k.minute, k.second], k.microsecond, more⟩ = some k :=
  dif_pos k.inRange

theorem startsOffset_iso (k : Clock) : ∀ c ∈ k.iso.toList, (!startsOffset c) = true := by
  have hnone : ∀ c ∈ clockCharacters, (!startsOffset c) = true := forall_mem_of_all (by decide)
  exact fun c hc => hnone c (k.characters c hc)

theorem readTime?_iso (k : Clock) : readTime? k.iso.toList = some (k, none) := by
  rw [readTime?, List.takeWhile_eq_self_iff.mpr (startsOffset_iso k),
    List.dropWhile_eq_nil_iff.mpr (startsOffset_iso k)]
  simp only [readClock?_iso, Option.bind_eq_bind, Option.bind_some, clock?_parts]
  rfl

/-! ## Offsets -/

namespace Offset

/-- The distance without its direction: hours, minutes, seconds and their fraction. -/
def distance (o : Offset) : Clock where
  hour := o.microseconds.natAbs / 1000000 / 3600
  minute := o.microseconds.natAbs / 1000000 / 60 % 60
  second := o.microseconds.natAbs / 1000000 % 60
  microsecond := o.microseconds.natAbs % 1000000
  inRange := by
    have hday := o.belowDay
    omega

/-- The sign of an offset. -/
def sign (o : Offset) : Char := if o.microseconds < 0 then '-' else '+'

/-- An offset after its sign. -/
def zone (o : Offset) : List Char :=
  if o.distance.second = 0 ∧ o.distance.microsecond = 0 then
    (padded 2 o.distance.hour).toList ++ ':' :: (padded 2 o.distance.minute).toList
  else o.distance.iso.toList

theorem toList_iso (o : Offset) : o.iso.toList = o.sign :: o.zone := by
  have hsign : (if o.microseconds < 0 then "-" else "+").toList = [o.sign] := by
    unfold sign
    split <;> rfl
  have hzone : (padded 2 o.distance.hour ++ ":" ++ padded 2 o.distance.minute ++
      if o.distance.second = 0 ∧ o.distance.microsecond = 0 then ""
      else ":" ++ padded 2 o.distance.second ++ fractionText o.distance.microsecond).toList =
        o.zone := by
    unfold zone
    split
    · simp
    · simp [Clock.iso]
  have hiso : o.iso = (if o.microseconds < 0 then "-" else "+") ++
      (padded 2 o.distance.hour ++ ":" ++ padded 2 o.distance.minute ++
        if o.distance.second = 0 ∧ o.distance.microsecond = 0 then ""
        else ":" ++ padded 2 o.distance.second ++ fractionText o.distance.microsecond) := by
    simp [iso, distance, String.append_assoc]
  rw [hiso, String.toList_append, hsign, hzone, List.singleton_append]

/-- The distance is read back, with its seconds or without. -/
theorem readClock?_zone (o : Offset) : ∃ read, readClock? false o.zone = some read ∧
    read.leftOver = false ∧
    read.seconds * 1000000 + read.microsecond = o.microseconds.natAbs := by
  obtain ⟨hhour, hminute, -, -⟩ := o.distance.inRange
  have hhour : o.distance.hour < 10 ^ 2 := by omega
  have hminute : o.distance.minute < 10 ^ 2 := by omega
  obtain ⟨c, cs, hcs, -⟩ := exists_padded_eq_cons (by decide) hminute
  have htotal : (o.distance.hour * 3600 + o.distance.minute * 60 + o.distance.second) * 1000000 +
      o.distance.microsecond = o.microseconds.natAbs := by
    simp only [distance]
    omega
  unfold zone
  split
  · rename_i hwhole
    rw [readClock?, readUnits?_colon hhour (.inl rfl) (by simp [hcs]), readUnits?_end hminute]
    rw [hwhole.1, hwhole.2] at htotal
    exact ⟨_, rfl, rfl, htotal⟩
  · rw [readClock?_iso]
    exact ⟨_, rfl, rfl, htotal⟩

/-- What is written as an offset is read as one, though not as the same: a distance below a second
is read as none. -/
theorem exists_readOffset? (o : Offset) (negative : Bool) :
    ∃ offset, readOffset? negative o.zone = some offset := by
  obtain ⟨read, hread, hend, htotal⟩ := o.readClock?_zone
  have hday := o.belowDay
  rw [readOffset?, hread]
  simp only [Option.bind_eq_bind, Option.bind_some, hend, Bool.false_eq_true, if_false]
  split
  · exact ⟨_, rfl⟩
  · refine ⟨_, dif_pos ?_⟩
    split <;> omega

theorem startsOffset_sign (o : Offset) : startsOffset o.sign = true := by
  unfold sign
  split <;> rfl

theorem sign_ne (o : Offset) : o.sign ≠ 'Z' := by
  unfold sign
  split <;> decide

end Offset

theorem exists_readTime?_iso (k : Clock) (o : Offset) :
    ∃ offset, readTime? (k.iso.toList ++ o.iso.toList) = some (k, some offset) := by
  obtain ⟨offset, hoffset⟩ := o.exists_readOffset? (o.sign == '-')
  have htake : (k.iso.toList ++ o.sign :: o.zone).takeWhile (!startsOffset ·) = k.iso.toList := by
    rw [List.takeWhile_append_of_pos (startsOffset_iso k)]
    simp [o.startsOffset_sign]
  have hdrop : (k.iso.toList ++ o.sign :: o.zone).dropWhile (!startsOffset ·) =
      o.sign :: o.zone := by
    rw [List.dropWhile_append_of_pos (startsOffset_iso k)]
    simp [o.startsOffset_sign]
  refine ⟨offset, ?_⟩
  rw [o.toList_iso, readTime?, htake, hdrop]
  simp only [readClock?_iso, Option.bind_eq_bind, Option.bind_some, clock?_parts, o.sign_ne,
    if_false, hoffset]
  rfl

/-! ## Moments -/

/-- The date of a moment is read back, and so is the time after its letter. -/
theorem Moment.read?_eq (m : Moment) : Moment.read? (m.iso "T") =
    (readTime? (m.clock.iso.toList ++ ((m.offset.map Offset.iso).getD "").toList)).map
      fun time => ⟨m.date, time.1, time.2⟩ := by
  generalize htime : m.clock.iso.toList ++ ((m.offset.map Offset.iso).getD "").toList = time
  have hchars : (m.iso "T").toList = m.date.iso.toList ++ 'T' :: time := by
    simp [Moment.iso, ← htime]
  have hlength := m.date.length_iso
  have hone : 'T'.utf8Size - 1 = 0 := by decide
  have hlong : ¬(m.date.iso.toList ++ 'T' :: time).length < 7 := by
    rw [List.length_append]
    omega
  rw [Moment.read?, places_of_iso m.characters, hchars, if_neg hlong, dateEnd_iso]
  simp only [List.take_left' hlength, List.drop_left' hlength, hone, List.drop_zero, readDate?_iso,
    Option.bind_eq_bind, Option.bind_some]
  cases readTime? time <;> rfl

theorem Moment.read?_iso {m : Moment} (h : m.offset = none) :
    Moment.read? (m.iso "T") = some m := by
  rw [Moment.read?_eq, h, Option.map_none, Option.getD_none, String.toList_empty, List.append_nil,
    readTime?_iso, Option.map_some, ← h]

/-- Any moment is read with its date and its time. -/
theorem Moment.exists_read?_iso (m : Moment) :
    ∃ offset, Moment.read? (m.iso "T") = some ⟨m.date, m.clock, offset⟩ := by
  cases hoffset : m.offset with
  | none => exact ⟨none, by rw [Moment.read?_iso hoffset, ← hoffset]⟩
  | some o =>
    obtain ⟨offset, hread⟩ := exists_readTime?_iso m.clock o
    refine ⟨some offset, ?_⟩
    rw [Moment.read?_eq, hoffset, Option.map_some, Option.getD_some, hread, Option.map_some]

theorem Moment.read?_date (d : Date) : Moment.read? d.iso = some (.ofDate d) := by
  have hlength := d.length_iso
  have hend := dateEnd_iso d []
  rw [List.append_nil] at hend
  rw [Moment.read?, places_of_iso d.characters, hlength, if_neg (by decide), hend]
  simp only [List.take_of_length_le hlength.le, List.drop_of_length_le hlength.le, readDate?_iso,
    Option.bind_eq_bind, Option.bind_some]

theorem Moment.iso_inj {m n : Moment} (hm : m.offset = none) (hn : n.offset = none) :
    m.iso "T" = n.iso "T" ↔ m = n := by
  refine ⟨fun h => Option.some.inj ?_, fun h => by rw [h]⟩
  rw [← Moment.read?_iso hm, h, Moment.read?_iso hn]

end ChartBoard.Calendar
