import ChartBoard.Datum.Reading
import ChartBoard.Sql.Expr
import ChartBoard.Text.Replaced

/-!
# What is cleaned off amounts

Amounts in text are read as numbers in two places: by a statement, which removes some characters
and casts what is left, and from the values of its rows.

* `Expr.castText` is the text that a statement casts.
* `castText_numeric` says what a statement removes.
* `cleanedAlike_iff` says for which texts both are the same: those without a percent sign and
  without any blank but the plain space.  They differ on `12%`.
-/

namespace ChartBoard

/-! ## Removing characters -/

namespace Text

/-- The length of a word where it stands as it is written. -/
def literalSize (word : List Char) : MatchSize := fun _ cs =>
  (startsWith? word cs).map fun _ => word.length

/-- The text with all occurrences of a word replaced. -/
def replacedAll (old new s : String) : String :=
  String.ofList (replaced (literalSize old.toList) new.toList s.toList)

theorem replacedFrom_char (c : Char) (before : Option Char) (cs : List Char) :
    replacedFrom (literalSize [c]) [] 0 before cs = cs.filter (!· == c) := by
  induction cs generalizing before with
  | nil => rfl
  | cons x cs ih =>
    by_cases hx : c = x
    · subst hx
      have hsize : literalSize [c] before (c :: cs) = some (0 + 1) := by
        simp [literalSize, startsWith?]
      simp [replacedFrom, hsize, ih]
    · have hsize : literalSize [c] before (x :: cs) = none := by
        simp [literalSize, startsWith?, hx]
      simp [replacedFrom, hsize, ih, Ne.symm hx]

theorem replacedAll_singleton (c : Char) (s : String) :
    replacedAll (String.singleton c) "" s = without (· == c) s := by
  rw [replacedAll, without, String.toList_singleton, replaced, String.toList_empty,
    replacedFrom_char]

theorem without_without (p q : Char → Bool) (s : String) :
    without q (without p s) = without (fun c => p c || q c) s := by
  simp [without, List.filter_filter, Bool.and_comm]

theorem without_eq_without_iff {p q : Char → Bool} {s : String} :
    without p s = without q s ↔ ∀ c ∈ s.toList, p c = q c := by
  rw [without, without, String.ofList_inj]
  constructor
  · intro h c hc
    have hmem : c ∈ s.toList.filter (!p ·) ↔ c ∈ s.toList.filter (!q ·) := by rw [h]
    simpa [List.mem_filter, hc] using hmem
  · exact fun h => List.filter_congr fun c hc => by rw [h c hc]

end Text

/-! ## The two readings -/

namespace Sql

/-- The text that an expression stands for, given the texts of what it is built from. -/
def Expr.textIn (row : Expr → Option String) : Expr → Option String
  | .asText e => e.textIn row
  | .replaced e old new => (e.textIn row).map (Text.replacedAll old new)
  | e => row e

/-- The text that an expression casts. -/
def Expr.castText (row : Expr → Option String) : Expr → Option String
  | .tryCast e _ => e.textIn row
  | _ => none

section

variable {row : Expr → Option String} {e : Expr} {s : String}

/-- Characters replaced by nothing one after the other are all removed. -/
theorem textIn_removing (h : e.textIn row = some s) (chars : List Char) :
    (chars.foldl (fun acc c => Expr.replaced acc (String.singleton c) "") e).textIn row =
      some (Text.without (fun c => chars.contains c) s) := by
  induction chars generalizing e s with
  | nil =>
    have hkept : s.toList.filter (fun c => !([] : List Char).contains c) = s.toList :=
      List.filter_eq_self.mpr fun _ _ => rfl
    rw [List.foldl_nil, h, Text.without, hkept, String.ofList_toList]
  | cons c rest ih =>
    have hstep : (Expr.replaced e (String.singleton c) "").textIn row =
        some (Text.without (· == c) s) := by
      rw [Expr.textIn, h, Option.map_some, Text.replacedAll_singleton]
    rw [List.foldl_cons, ih hstep, Text.without_without]
    simp only [List.contains_cons]

theorem castText_numeric (h : e.textIn row = some s) :
    e.numeric.castText row = some (Text.without (fun c => ['$', ',', ' '].contains c) s) := by
  have hasText : (Expr.asText e).textIn row = some s := h
  exact textIn_removing hasText ['$', ',', ' ']

/-- Whatever expression the text comes from, a statement casts what `finiteOfText?` takes for the
spelling of a number. -/
def CleanedAlike (s : String) : Prop :=
  ∀ (row : Expr → Option String) (e : Expr), e.textIn row = some s →
    e.numeric.castText row = some (Text.without isNumericNoise s)

/-- The characters that are treated alike are all but the percent sign and other blanks than the
space. -/
theorem isNumericNoise_eq_iff (c : Char) :
    ['$', ',', ' '].contains c = isNumericNoise c ↔
      c ≠ '%' ∧ (Text.isBlank c = true → c = ' ') := by
  have hdollar : Text.isBlank '$' = false := by decide
  have hcomma : Text.isBlank ',' = false := by decide
  have hspace : Text.isBlank ' ' = true := by decide
  by_cases hplain : c = '$' ∨ c = ',' ∨ c = ' '
  · rcases hplain with rfl | rfl | rfl
    · simp [isNumericNoise, hdollar]
    · simp [isNumericNoise, hcomma]
    · simp [isNumericNoise, hspace]
  · obtain ⟨hdollar, hcomma, hspace⟩ : c ≠ '$' ∧ c ≠ ',' ∧ c ≠ ' ' := by
      simpa only [not_or] using hplain
    simp [isNumericNoise, hdollar, hcomma, hspace]

/-- A statement and the rows are cleaned alike exactly where a text holds no percent sign and no
blank other than the space. -/
theorem cleanedAlike_iff (s : String) :
    CleanedAlike s ↔ ∀ c ∈ s.toList, c ≠ '%' ∧ (Text.isBlank c = true → c = ' ') := by
  simp only [← isNumericNoise_eq_iff]
  rw [← Text.without_eq_without_iff]
  constructor
  · intro h
    have hcast := h (fun _ => some s) (.bare "amount") rfl
    rw [castText_numeric rfl] at hcast
    exact Option.some.inj hcast
  · intro h row e he
    rw [castText_numeric he, h]

/-- A statement keeps the percent sign, which a cast to a number cannot read. -/
theorem not_cleanedAlike : ¬ ∀ s, CleanedAlike s := by
  intro h
  have hcast := h "12%" (fun _ => some "12%") (.column 0 "rate") rfl
  exact absurd hcast (by decide)

end

end Sql

end ChartBoard
