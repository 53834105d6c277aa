import ChartBoard.Proofs.Datum.DateLabel
import ChartBoard.Sql.Query

/-!
# Conditions on labels of dates

A statement has points in time written in each of three formats, and tests whether one of the texts
is among the labels that are asked for.

* `formatted?` is the text of a date in a format, `formatted?_labelFormat` says that the formats give
  the labels.
* `LabelTest` is a test by its parts, and `pieces_labelOneOf` says that a condition on labels is
  written as its tests.
* `exists_passes_iff` says which dates pass the tests for one label: those of its day, month or
  year.
-/

namespace ChartBoard.Sql

open Calendar Number

/-! ## Formats -/

/-- A date in a format, where `%Y` is the year in four digits and `%m` and `%d` are the month and the
day in two.  No other directive is read. -/
def formatted? (d : Date) : List Char → Option String
  | [] => some ""
  | '%' :: 'Y' :: rest => (formatted? d rest).map (padded 4 d.year ++ ·)
  | '%' :: 'm' :: rest => (formatted? d rest).map (padded 2 d.month ++ ·)
  | '%' :: 'd' :: rest => (formatted? d rest).map (padded 2 d.day ++ ·)
  | c :: rest => if c = '%' then none else (formatted? d rest).map (String.singleton c ++ ·)

/-- The format of the labels by a unit. -/
def labelFormat : Granularity → String
  | .year => "%Y"
  | .month => "%Y/%m"
  | .day => "%Y/%m/%d"

theorem formatted?_labelFormat (g : Granularity) (d : Date) :
    formatted? d (labelFormat g).toList = some (bucketLabel g d) := by
  have hslash : String.singleton '/' = "/" := rfl
  cases g <;> simp [labelFormat, formatted?, bucketLabel, hslash, String.append_assoc]

theorem labelFormats_eq : labelFormats = [Granularity.year, .month, .day].map labelFormat := rfl

/-! ## Tests -/

/-- The test whether a point in time, written in a format, is one of some texts. -/
structure LabelTest where
  time : Expr
  format : String
  texts : List String

/-- The pieces of a test. -/
def LabelTest.pieces (t : LabelTest) : List Piece :=
  inList (t.time.formatted t.format).pieces (t.texts.map .text)

/-- True when a row passes a test, given the points in time that expressions stand for in it. -/
def LabelTest.Passes (row : Expr → Option Temporal) (t : LabelTest) : Prop :=
  ∃ b s, row t.time = some b ∧ formatted? b.day t.format.toList = some s ∧ s ∈ t.texts

/-- The pieces of the condition that some test is passed. -/
def anyPassed (tests : List LabelTest) : List Piece :=
  .code "(" :: separated " OR " (tests.map LabelTest.pieces) ++ [.code ")"]

/-- The tests of a condition on labels. -/
def labelTests (e : Expr) (labels : List String) : List LabelTest :=
  labelFormats.map fun format => ⟨e.moment, format, labels⟩

theorem pieces_labelOneOf (e : Expr) (labels : List String) :
    (Condition.labelOneOf e labels).pieces = anyPassed (labelTests e labels) := rfl

/-- Of the three formats only that of the label's own unit can give the label. -/
theorem exists_passes_iff {row : Expr → Option Temporal} {e : Expr} {g : Granularity} {a : Date} :
    (∃ t ∈ labelTests e [bucketLabel g a], t.Passes row) ↔
      ∃ b, row e.moment = some b ∧ Date.SameBucket g a b.day := by
  constructor
  · rintro ⟨t, ht, b, s, hrow, hformat, hs⟩
    rw [labelTests, labelFormats_eq, List.map_map] at ht
    obtain ⟨h, -, rfl⟩ := List.mem_map.mp ht
    obtain rfl := List.mem_singleton.mp hs
    have hlabel := Option.some.inj ((formatted?_labelFormat h b.day).symm.trans hformat)
    obtain rfl := granularity_eq_of_bucketLabel_eq hlabel
    exact ⟨b, hrow, sameBucket_iff.mp hlabel.symm⟩
  · rintro ⟨b, hrow, hbucket⟩
    refine ⟨⟨e.moment, labelFormat g, [bucketLabel g a]⟩, ?_, b, bucketLabel g b.day, hrow,
      formatted?_labelFormat g b.day, ?_⟩
    · rw [labelTests, labelFormats_eq]
      cases g <;> simp
    · exact List.mem_singleton.mpr (sameBucket_iff.mpr hbucket).symm

end ChartBoard.Sql
