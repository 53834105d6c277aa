import ChartBoard.Proofs.Sql.Mention

/-!
# The words of statements

What stands outside of the quotes of a statement: fixed code, numbers and the aliases of tables.
None of it has a quote in it, so a scan of the statement never mistakes one for a quotation.

* `keywords` and `fixedTexts` list the fixed words, `IsNumeral` says what a number looks like.
* `isBare_of_mem_keywords`, `IsNumeral.isBare` and `isBare_sourceAlias` say that they have no quote.
-/

namespace ChartBoard.Sql

/-! ## Fixed words and numbers -/

/-- The code that statements are made of. -/
def keywords : List String :=
  [".", ", ", ")", "(", " ", " = ", " / ", " AS ", " ON ", " IN (", " OR ", " AND ", "1", "v", "1=0",
    "CAST(", " AS VARCHAR)", "REPLACE(", "TRY_CAST(", " AS DOUBLE)", " AS TIMESTAMP)", "COALESCE(",
    "SUM(", "AVG(", "MIN(", "MAX(", "COUNT(", "COUNT(*)", "COUNT(DISTINCT ", "TO_TIMESTAMP(",
    "DATE_TRUNC(", "strftime(", " IS NOT NULL", "SELECT ", " FROM ", "JOIN ", " WHERE ",
    " GROUP BY ", " ORDER BY ", "SELECT COALESCE(",
    ", 0) AS current_value, NULL AS previous_value FROM ", "WITH base AS (SELECT ", " AS t, ",
    " AS v FROM ", "), dates AS (SELECT MAX(t) AS max_t FROM base), ",
    "ranges AS (SELECT CAST(max_t AS TIMESTAMP) AS max_t, ",
    "CAST(max_t AS TIMESTAMP) - INTERVAL ", " AS start_curr", " AS start_prev", " AS end_prev",
    " FROM dates) SELECT ", "COALESCE((SELECT ", " FROM base, ranges WHERE ",
    "t > start_curr AND t <= ranges.max_t", "t > start_prev AND t <= end_prev",
    "), 0) AS current_value", "), 0) AS previous_value", " AS value FROM ",
    " GROUP BY 1 ORDER BY 1 LIMIT "]

/-- The texts of the statements' own, lengths of time aside. -/
def fixedTexts : List String := ["$", ",", " ", "", "month", "year", "%Y", "%Y/%m", "%Y/%m/%d"]

/-- The number that milliseconds are divided by. -/
def millisecondsPerSecond : String := "1000.0"

/-- The text of an integer or of a finite double, or the number of milliseconds in a second. -/
def IsNumeral (s : String) : Prop :=
  (∃ n : Int, s = toString n) ∨ (∃ x : Float, x.isFinite = true ∧ s = Number.floatText x)
    ∨ s = millisecondsPerSecond

/-- The text of a length of time in whole units. -/
def IsInterval (s : String) : Prop := ∃ (n : Nat) (g : Granularity), s = intervalText n g.name

/-! ## No quotes in code and numbers -/

theorem isBare_of_mem_keywords : ∀ {c : String}, c ∈ keywords → IsBare c := by
  decide +kernel

theorem noQuote_append {v w : List Char} : NoQuote (v ++ w) ↔ NoQuote v ∧ NoQuote w := by
  simp only [NoQuote, List.mem_append]
  constructor
  · exact fun h => ⟨fun c hc => h c (Or.inl hc), fun c hc => h c (Or.inr hc)⟩
  · rintro ⟨hv, hw⟩ c (hc | hc)
    · exact hv c hc
    · exact hw c hc

theorem NoQuote.of_subset {v w : List Char} (hw : NoQuote w) (h : v ⊆ w) : NoQuote v :=
  fun c hc => hw c (h hc)

theorem noQuote_zeros (n : Nat) : NoQuote (List.replicate n '0') := by
  intro c hc
  obtain rfl := List.eq_of_mem_replicate hc
  rfl

theorem ofChar?_of_isDigit {c : Char} (h : c.isDigit = true) : Quote.ofChar? c = none := by
  unfold Quote.ofChar?
  split
  · subst c; cases h
  · split
    · subst c; cases h
    · rfl

theorem noQuote_digits (n : Nat) : NoQuote (Nat.toDigits 10 n) :=
  fun _ hc => ofChar?_of_isDigit (Nat.isDigit_of_mem_toDigits (by decide) (by decide) hc)

theorem isBare_append {a b : String} (h : a ≠ "" ∨ b ≠ "") (ha : NoQuote a.toList)
    (hb : NoQuote b.toList) : IsBare (a ++ b) := by
  refine ⟨?_, by rw [String.toList_append, noQuote_append]; exact ⟨ha, hb⟩⟩
  rcases h with h | h
  · simp [h]
  · simp [h]

theorem isBare_nat (n : Nat) : IsBare (toString n) :=
  ⟨by simp, by simpa using noQuote_digits n⟩

theorem isBare_int (n : Int) : IsBare (toString n) := by
  rw [Int.toString_eq_repr, Int.repr_eq_if]
  split
  · simpa using isBare_nat n.toNat
  · refine isBare_append (Or.inl (by decide)) (by decide) ?_
    simpa using noQuote_digits (-n).toNat

/-! ## No quotes in the texts of doubles -/

section Doubles

open Number

theorem noQuote_padded (width n : Nat) : NoQuote (padded width n).toList := by
  rw [padded, String.toList_ofList, noQuote_append]
  exact ⟨noQuote_zeros _, noQuote_digits n⟩

theorem isBare_exponentText (layout : Layout) (e : Int) : IsBare (layout.exponentText e) := by
  unfold Layout.exponentText
  split
  · exact isBare_append (Or.inl (by decide)) (by decide) (noQuote_padded _ _)
  · exact isBare_append (Or.inl (by decide)) (by decide) (noQuote_padded _ _)

theorem isBare_magnitudeText {layout : Layout} (hsuffix : IsBare layout.wholeSuffix)
    (d : Scientific) : IsBare (layout.magnitudeText d) := by
  have hdigits := noQuote_digits d.digits
  have htake (n : Nat) : NoQuote ((Nat.toDigits 10 d.digits).take n) :=
    hdigits.of_subset (List.take_subset _ _)
  have hdrop (n : Nat) : NoQuote ((Nat.toDigits 10 d.digits).drop n) :=
    hdigits.of_subset (List.drop_subset _ _)
  have hpoint : NoQuote ".".toList := by decide
  unfold Layout.magnitudeText
  simp only
  split
  · split
    · refine isBare_append (Or.inr hsuffix.1) ?_ hsuffix.2
      rw [String.toList_ofList, noQuote_append]
      exact ⟨hdigits, noQuote_zeros _⟩
    · split
      · refine isBare_append (Or.inl (by decide)) (by decide) ?_
        rw [String.toList_ofList, noQuote_append]
        exact ⟨noQuote_zeros _, hdigits⟩
      · refine isBare_append (Or.inl (by simp)) ?_ (by simpa using hdrop _)
        rw [String.toList_append, noQuote_append]
        exact ⟨by simpa using htake _, hpoint⟩
  · have hexponent :=
      isBare_exponentText layout (d.exponent + (Nat.toDigits 10 d.digits).length - 1)
    refine isBare_append (Or.inr hexponent.1) ?_ hexponent.2
    rw [String.toList_append, noQuote_append, String.toList_append, noQuote_append]
    refine ⟨⟨by simpa using htake _, ?_⟩, by rw [String.toList_ofList]; exact hdrop 1⟩
    split
    · decide
    · exact hpoint

/-- The text of a double has no quote in it, whether finite or not. -/
theorem isBare_floatText (x : Float) : IsBare (floatText x) := by
  unfold floatText Layout.text
  split
  · split
    · decide
    · split <;> decide
  · simp only
    have hsign {magnitude : String} (h : IsBare magnitude) (negative : Bool) :
        IsBare (if negative then "-" ++ magnitude else magnitude) := by
      split
      · exact isBare_append (Or.inl (by decide)) (by decide) h.2
      · exact h
    refine hsign ?_ _
    split
    · decide
    · exact isBare_magnitudeText (by decide) _

end Doubles

theorem IsNumeral.isBare {s : String} (h : IsNumeral s) : IsBare s := by
  obtain ⟨n, rfl⟩ | ⟨x, -, rfl⟩ | rfl := h
  · exact isBare_int n
  · exact isBare_floatText x
  · decide

theorem isBare_sourceAlias (position : Nat) : IsBare (sourceAlias position) :=
  isBare_append (Or.inl (by decide)) (by decide) (isBare_nat position).2

end ChartBoard.Sql
