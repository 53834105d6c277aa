import ChartBoard.Datum.Reading
import ChartBoard.Proofs.Calendar.Order
import ChartBoard.Proofs.Text.Blank

/-!
# Labels of dates

A label shows the year, the month or the day of a date and nothing else of it.

* `Date.firstDay` is the first day of what a label shows, `bucketLabel_eq_iff` says that two dates
  have one label when they have one such day, `bucketLabel_le_iff` that labels are in the order of
  these days.
* `dateLabel_iso` is the label of a moment that the engine has written out.
* `dateLabel_dateLabel` says that labels are not read as dates, whatever they are labels of.
* `Temporal` are the values that are dates by their kind.
-/

namespace ChartBoard

open Number Calendar
open Text (forall_mem_of_all)

/-! ## Buckets -/

theorem isDay_first {year month : Nat} (hyear : 1 ≤ year ∧ year ≤ 9999)
    (hmonth : 1 ≤ month ∧ month ≤ 12) : isDay year month 1 = true := by
  have hlength : 1 ≤ daysInMonth year month := by
    unfold daysInMonth
    split
    · split <;> omega
    · split
      · omega
      · simp [hmonth]
  simp [isDay, hyear, hlength]

namespace Calendar.Date

/-- The first of the days that are shown alike. -/
def firstDay (g : Granularity) (d : Date) : Date :=
  match g with
  | .day => d
  | .month => ⟨d.year, d.month, 1, isDay_first d.year_mem d.month_mem⟩
  | .year => ⟨d.year, 1, 1, isDay_first d.year_mem (by decide)⟩

theorem firstDay_firstDay (g : Granularity) (d : Date) :
    (d.firstDay g).firstDay g = d.firstDay g := by
  cases g <;> rfl

/-- True of dates on one day, in one month or in one year. -/
def SameBucket (g : Granularity) (a b : Date) : Prop :=
  match g with
  | .day => a = b
  | .month => a.year = b.year ∧ a.month = b.month
  | .year => a.year = b.year

theorem firstDay_eq_iff {g : Granularity} {a b : Date} :
    a.firstDay g = b.firstDay g ↔ SameBucket g a b := by
  cases g <;> simp [firstDay, SameBucket]

end Calendar.Date

theorem bucketLabel_eq_iff {g : Granularity} {a b : Date} :
    bucketLabel g a = bucketLabel g b ↔ a.firstDay g = b.firstDay g := by
  obtain ⟨hyear, hmonth, -⟩ := a.fits
  obtain ⟨hyear', hmonth', -⟩ := b.fits
  have hslash {s t : String} : "/" ++ s = "/" ++ t ↔ s = t := by
    simp [← String.toList_inj]
  cases g with
  | day =>
    simp only [bucketLabel, Date.firstDay, String.append_assoc]
    rw [padded_append_inj (by decide) hyear hyear', hslash,
      padded_append_inj (by decide) hmonth hmonth', hslash, padded_inj]
    cases a
    cases b
    simp
  | month =>
    simp only [bucketLabel, Date.firstDay, String.append_assoc]
    rw [padded_append_inj (by decide) hyear hyear', hslash, padded_inj]
    simp
  | year =>
    simp only [bucketLabel, Date.firstDay, padded_inj]
    simp

theorem sameBucket_iff {g : Granularity} {a b : Date} :
    bucketLabel g a = bucketLabel g b ↔ Date.SameBucket g a b :=
  bucketLabel_eq_iff.trans Date.firstDay_eq_iff

theorem bucketLabel_ne_empty (g : Granularity) (d : Date) : bucketLabel g d ≠ "" := by
  have hyear : padded 4 d.year ≠ "" := fun hempty => by
    have hlength := length_padded (by decide) d.fits.1
    simp [hempty] at hlength
  cases g <;> simp [bucketLabel, hyear]

/-! ## Order -/

theorem slash_append_lt_iff {s t : String} : "/" ++ s < "/" ++ t ↔ s < t := by
  rw [String.lt_iff_toList_lt, String.toList_append, String.toList_append,
    append_lt_append_iff rfl, String.lt_iff_toList_lt]
  simp

theorem bucketLabel_lt_iff {g : Granularity} {a b : Date} :
    bucketLabel g a < bucketLabel g b ↔ (a.firstDay g).Before (b.firstDay g) := by
  obtain ⟨hyear, hmonth, hday⟩ := a.fits
  obtain ⟨hyear', hmonth', hday'⟩ := b.fits
  cases g with
  | day =>
    simp only [bucketLabel, Date.firstDay, Date.Before, String.append_assoc]
    rw [padded_append_lt_iff (by decide) hyear hyear', slash_append_lt_iff,
      padded_append_lt_iff (by decide) hmonth hmonth', slash_append_lt_iff,
      padded_lt_iff (by decide) hday hday']
  | month =>
    simp only [bucketLabel, Date.firstDay, Date.Before, String.append_assoc]
    rw [padded_append_lt_iff (by decide) hyear hyear', slash_append_lt_iff,
      padded_lt_iff (by decide) hmonth hmonth']
    simp
  | year =>
    simp only [bucketLabel, Date.firstDay, Date.Before]
    rw [padded_lt_iff (by decide) hyear hyear']
    simp

/-- Labels are in the order of the days that they begin with. -/
theorem bucketLabel_le_iff {g : Granularity} {a b : Date} :
    bucketLabel g a ≤ bucketLabel g b ↔ (a.firstDay g).ordinal ≤ (b.firstDay g).ordinal := by
  rw [← Nat.not_lt, Date.ordinal_lt_iff, ← bucketLabel_lt_iff, not_lt]

/-! ## Units -/

theorem length_bucketLabel (g : Granularity) (d : Date) :
    (bucketLabel g d).toList.length = match g with | .year => 4 | .month => 7 | .day => 10 := by
  obtain ⟨hyear, hmonth, hday⟩ := d.fits
  have hyear := length_padded (by decide) hyear
  have hmonth := length_padded (by decide) hmonth
  have hday := length_padded (by decide) hday
  cases g <;> simp [bucketLabel, hyear, hmonth, hday]

/-- Labels of two units differ in length. -/
theorem granularity_eq_of_bucketLabel_eq {g h : Granularity} {a b : Date}
    (heq : bucketLabel g a = bucketLabel h b) : g = h := by
  have hlength := length_bucketLabel g a
  rw [heq, length_bucketLabel] at hlength
  cases g <;> cases h <;> first | rfl | cases hlength

/-! ## Moments that have been written out -/

/-- A text without blanks or the letter of universal time is read as it stands. -/
theorem momentOf?_text {s : String} (hne : s ≠ "") (hblank : ∀ c ∈ s.toList, Text.isBlank c = false)
    (hzone : ∀ c ∈ s.toList, c ≠ 'Z') : momentOf? (.text s) = Moment.read? s := by
  have htrim : Text.trim s = s := by
    rw [Text.trim, Text.trimChars_of_forall hblank, String.ofList_toList]
  have hempty : s.isEmpty = false := by simpa using hne
  have hend : Text.startsWith? ['Z'] s.toList.reverse = none := by
    cases hchars : s.toList.reverse with
    | nil => rfl
    | cons c cs =>
      have hc : c ∈ s.toList := List.mem_reverse.mp (hchars ▸ List.mem_cons_self)
      rw [Text.startsWith?, if_neg (hzone c hc).symm]
  have hlabel : (Datum.text s).label = s := rfl
  simp only [momentOf?, hlabel, htrim, hempty, hend]
  rfl

theorem momentOf?_of_iso {s : String} (hne : s ≠ "") (h : ∀ c ∈ s.toList, c ∈ isoCharacters) :
    momentOf? (.text s) = Moment.read? s := by
  have hblank : ∀ c ∈ isoCharacters, Text.isBlank c = false := forall_mem_of_all (by decide)
  have hzone : ∀ c ∈ isoCharacters, c ≠ 'Z' := forall_mem_of_all (by decide)
  exact momentOf?_text hne (fun c hc => hblank c (h c hc)) fun c hc => hzone c (h c hc)

theorem momentOf?_date (d : Date) : momentOf? (.text d.iso) = some (.ofDate d) := by
  rw [momentOf?_of_iso (by simp [Date.iso]) d.characters, Moment.read?_date]

/-! ## Labels are no dates -/

/-- The characters that labels of dates are written with. -/
def labelCharacters : List Char := clockCharacters ++ ['/']

theorem bucketLabel_characters (g : Granularity) (d : Date) :
    ∀ c ∈ (bucketLabel g d).toList, c ∈ labelCharacters := by
  have hpart (width n : Nat) : ∀ c ∈ (padded width n).toList, c ∈ labelCharacters := fun c hc =>
    List.mem_append_left _ (padded_characters width n c hc)
  have hslash : ∀ c ∈ "/".toList, c ∈ labelCharacters := forall_mem_of_all (by decide)
  cases g <;> simp only [bucketLabel, String.toList_append, List.forall_mem_append]
  · exact ⟨⟨⟨⟨hpart 4 _, hslash⟩, hpart 2 _⟩, hslash⟩, hpart 2 _⟩
  · exact ⟨⟨hpart 4 _, hslash⟩, hpart 2 _⟩
  · exact hpart 4 _

/-- No month begins with a slash. -/
theorem readDate?_slash {year : Nat} (hyear : year < 10 ^ 4) (rest : List Char) :
    readDate? ((padded 4 year).toList ++ '/' :: rest) = none := by
  rw [readDate?, readFixed?_padded (by decide) hyear]
  rfl

/-- A slash after the year belongs to the date. -/
theorem lt_dateEnd_slash {start : List Char} (hstart : start.length = 4) (rest : List Char) :
    4 < dateEnd (start ++ '/' :: rest) := by
  have hfour : (start ++ '/' :: rest)[4]? = some '/' := by
    rw [List.getElem?_append_right hstart.le, hstart]
    rfl
  rw [dateEnd, hfour]
  simp only [Option.some.injEq, Char.reduceEq, if_false]
  split <;> decide

theorem read?_slash {year : Nat} (hyear : year < 10 ^ 4) {s : String} {rest : List Char}
    (hs : places s = (padded 4 year).toList ++ '/' :: rest) : Moment.read? s = none := by
  have hstart := length_padded (by decide) hyear
  obtain ⟨n, hend⟩ := Nat.exists_eq_add_of_lt (lt_dateEnd_slash hstart rest)
  have htake : ((padded 4 year).toList ++ '/' :: rest).take (4 + n + 1) =
      (padded 4 year).toList ++ '/' :: rest.take n := by
    have hsize : 4 + n + 1 = (padded 4 year).toList.length + (n + 1) := by omega
    rw [hsize, List.take_length_add_append, List.take_succ_cons]
  rw [Moment.read?, hs, hend]
  simp only [htake, readDate?_slash hyear, Option.bind_eq_bind, Option.bind_none, ite_self]

/-- No label of a date is read as a date itself. -/
theorem momentOf?_bucketLabel (g : Granularity) (d : Date) :
    momentOf? (.text (bucketLabel g d)) = none := by
  have hblank : ∀ c ∈ labelCharacters, Text.isBlank c = false := forall_mem_of_all (by decide)
  have hzone : ∀ c ∈ labelCharacters, c ≠ 'Z' := forall_mem_of_all (by decide)
  have hsize : ∀ c ∈ labelCharacters, c.utf8Size = 1 := forall_mem_of_all (by decide)
  have hchars := bucketLabel_characters g d
  have hplaces := places_eq_toList fun c hc => hsize c (hchars c hc)
  rw [momentOf?_text (bucketLabel_ne_empty g d) (fun c hc => hblank c (hchars c hc)) fun c hc =>
    hzone c (hchars c hc)]
  obtain ⟨hyear, -, -⟩ := d.fits
  cases g with
  | day =>
    have hday : (bucketLabel .day d).toList = (padded 4 d.year).toList ++
        '/' :: ((padded 2 d.month).toList ++ '/' :: (padded 2 d.day).toList) := by
      simp [bucketLabel]
    exact read?_slash hyear (hplaces.trans hday)
  | month =>
    have hmonth : (bucketLabel .month d).toList =
        (padded 4 d.year).toList ++ '/' :: (padded 2 d.month).toList := by
      simp [bucketLabel]
    exact read?_slash hyear (hplaces.trans hmonth)
  | year =>
    -- a year alone is too short
    have hlength := length_bucketLabel .year d
    rw [Moment.read?, hplaces, hlength]
    rfl

/-- A value that is no date and no moment is read by its text. -/
theorem momentOf?_label {v : Datum} (h : momentOf? v = none) : momentOf? (.text v.label) = none := by
  have hlabel (s : String) : (Datum.text s).label = s := rfl
  cases v with
  | date d => cases h
  | moment m => cases h
  | _ =>
    rw [momentOf?] at h ⊢
    · rwa [hlabel]
    all_goals simp

/-- A label that is labelled again stays as it is, by whatever unit. -/
theorem dateLabel_dateLabel (g h : Granularity) (v : Datum) :
    dateLabel h (.text (dateLabel g v)) = dateLabel g v := by
  cases hmoment : momentOf? v with
  | none =>
    have hlabel : dateLabel g v = v.label := by rw [dateLabel, hmoment]
    rw [hlabel, dateLabel, momentOf?_label hmoment]
    rfl
  | some m =>
    have hlabel : dateLabel g v = bucketLabel g m.date := by rw [dateLabel, hmoment]
    rw [hlabel, dateLabel, momentOf?_bucketLabel]
    rfl

/-! ## Values that mean dates -/

theorem dateLabel_null (g : Granularity) : dateLabel g .null = "" := by
  have hnone : momentOf? .null = none := by decide
  rw [dateLabel, hnone]
  rfl

/-- Whatever the offset, the label is that of the date on the moment's own clock. -/
theorem dateLabel_iso (g : Granularity) (m : Moment) :
    dateLabel g (.text (m.iso "T")) = bucketLabel g m.date := by
  obtain ⟨offset, hread⟩ := m.exists_read?_iso
  rw [dateLabel, momentOf?_of_iso (by simp [Moment.iso]) m.characters, hread]

theorem dateLabel_dateIso (g : Granularity) (d : Date) :
    dateLabel g (.text d.iso) = bucketLabel g d := by
  rw [dateLabel, momentOf?_date, Moment.ofDate]

/-- A date, with a time of day or without. -/
inductive Temporal where
  | date (d : Date)
  | moment (m : Moment)

namespace Temporal

/-- The value of a date or a moment. -/
def toDatum : Temporal → Datum
  | date d => .date d
  | moment m => .moment m

/-- The day, on the moment's own clock. -/
def day : Temporal → Date
  | date d => d
  | moment m => m.date

@[simp] theorem dateLabel_toDatum (g : Granularity) (t : Temporal) :
    dateLabel g t.toDatum = bucketLabel g t.day := by
  cases t <;> rfl

end Temporal

end ChartBoard
