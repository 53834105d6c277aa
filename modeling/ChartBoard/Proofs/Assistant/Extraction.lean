import ChartBoard.Assistant.Extraction
import ChartBoard.Proofs.Text.Blank
import ChartBoard.Proofs.Text.Folded
import ChartBoard.Proofs.Text.Search

/-!
# Answers that cannot be read

What stands in a fence is read before it is looked at, so what cannot be read is a fault even where
there is no chart.

* `chart_fenced` is the chart of an answer that is a fence around a line.
* `chart_longNumber` is the fault of a long number in such a fence, `chart_nested` that of lists that
  nest too deep.
-/

namespace ChartBoard.Json

theorem read_longNumber {n : Nat} (h : Number.mostDigits < n) (levels : Nat) :
    read levels (String.ofList (List.replicate n '1')) = .error (.tooManyDigits n) := by
  have hdigit : ∀ c ∈ List.replicate n '1', c.isDigit = true := fun c hc => by
    rw [List.eq_of_mem_replicate hc]
    rfl
  have hspan : spanDigits (List.replicate n '1') = (List.replicate n '1', []) := by
    rw [spanDigits, List.takeWhile_eq_self_iff.mpr hdigit, List.dropWhile_eq_nil_iff.mpr hdigit]
  obtain ⟨m, rfl⟩ := Nat.exists_eq_succ_of_ne_zero (Nat.ne_zero_of_lt h)
  have hscalar : readScalar (List.replicate (m + 1) '1') = .error (.tooManyDigits (m + 1)) := by
    have hinteger : readScalar (List.replicate (m + 1) '1') =
        integerOf false (List.replicate (m + 1) '1') [] := by
      rw [List.replicate_succ] at hspan ⊢
      have hword : readWord? ('1' :: List.replicate m '1') = none := rfl
      simp [readScalar, hword, readNumber, hspan, readDecimals, readExponent?]
    rw [hinteger, integerOf]
    simp only [List.length_replicate, if_pos h]
  have hvalue (fuel levels : Nat) : readValue (fuel + 1) levels (List.replicate (m + 1) '1') =
      .error (.tooManyDigits (m + 1)) := by
    rw [← hscalar, List.replicate_succ, readValue] <;> simp
  have hskip : skipSpace (List.replicate (m + 1) '1') = List.replicate (m + 1) '1' := rfl
  rw [read, String.toList_ofList, hskip, hvalue]

/-- The characters of an empty list in a list in a list, and so on. -/
def nested (n : Nat) : List Char := List.replicate n '[' ++ List.replicate n ']'

theorem forall_mem_nested {P : Char → Prop} (hopening : P '[') (hclosing : P ']') (n : Nat) :
    ∀ c ∈ nested n, P c := by
  intro c hc
  rcases List.mem_append.mp hc with hc | hc
  · exact List.eq_of_mem_replicate hc ▸ hopening
  · exact List.eq_of_mem_replicate hc ▸ hclosing

theorem skipSpace_brackets (n : Nat) (rest : List Char) :
    skipSpace (List.replicate (n + 1) '[' ++ rest) = List.replicate (n + 1) '[' ++ rest := rfl

/-- Lists cannot be read if there are more of them than levels.  One step down takes three of the
fuel. -/
theorem readValue_brackets {levels n fuel : Nat} (hn : levels < n) (hfuel : 3 * levels + 3 ≤ fuel)
    (rest : List Char) :
    readValue fuel levels (List.replicate n '[' ++ rest) = .error (.tooDeep false) := by
  obtain ⟨n, rfl⟩ := Nat.exists_eq_succ_of_ne_zero (Nat.ne_zero_of_lt hn)
  induction levels generalizing n fuel with
  | zero =>
    obtain ⟨fuel, rfl⟩ := Nat.exists_eq_add_of_le' hfuel
    rw [List.replicate_succ, List.cons_append, readValue, readList]
  | succ levels ih =>
    obtain ⟨fuel, rfl⟩ := Nat.exists_eq_add_of_le' (Nat.le_of_add_left_le hfuel)
    obtain ⟨n, rfl⟩ := Nat.exists_eq_succ_of_ne_zero (Nat.ne_zero_of_lt (Nat.lt_of_succ_lt_succ hn))
    have hinner : readValue fuel levels (List.replicate (n + 1) '[' ++ rest) =
        .error (.tooDeep false) := ih (by omega) n (Nat.lt_of_succ_lt_succ hn)
    have hlist : readList (fuel + 2) (levels + 1) (List.replicate (n + 1) '[' ++ rest) =
        (readItems (fuel + 1) levels (List.replicate (n + 1) '[' ++ rest)).map .list := by
      rw [List.replicate_succ, List.cons_append, readList]
      simp
    have hvalue : readValue (fuel + 3) (levels + 1) (List.replicate (n + 2) '[' ++ rest) =
        readList (fuel + 2) (levels + 1) (skipSpace (List.replicate (n + 1) '[' ++ rest)) := by
      rw [List.replicate_succ, List.cons_append, readValue]
    rw [hvalue, skipSpace_brackets, hlist, readItems, hinner]
    rfl

theorem read_nested {levels n : Nat} (h : levels < n) :
    read levels (String.ofList (nested n)) = .error (.tooDeep false) := by
  have hlength : (nested n).length = n + n := by simp [nested]
  have hskip : skipSpace (nested n) = nested n := by
    obtain ⟨m, rfl⟩ := Nat.exists_eq_succ_of_ne_zero (Nat.ne_zero_of_lt h)
    rfl
  rw [read, String.toList_ofList, hskip, hlength, nested, readValue_brackets h (by omega)]

end ChartBoard.Json

namespace ChartBoard.Assistant

open Text

/-- What opens a fence. -/
def fenceStart : List Char := ['\x60', '\x60', '\x60'] ++ "json".toList

/-- The characters of an answer that is a fence around a line. -/
def fencedLine (line : List Char) : List Char := fenceStart ++ '\n' :: (line ++ fenceEnd)

theorem forall_mem_fencedLine {P : Char → Prop} {line : List Char} (hstart : fenceStart.Forall P)
    (hend : fenceEnd.Forall P) (hline : ∀ c ∈ line, P c) : ∀ c ∈ fencedLine line, P c := by
  rw [List.forall_iff_forall_mem] at hstart hend
  intro c hc
  rw [fencedLine, List.mem_append, List.mem_cons, List.mem_append] at hc
  rcases hc with hc | rfl | hc | hc
  · exact hstart c hc
  · exact hend '\n' List.mem_cons_self
  · exact hline c hc
  · exact hend c hc

variable {limits : Limits}

/-- A line without the letter `c` has no tags, and without blanks all of it stands in the fence. -/
theorem chart_fenced {line : List Char} (hne : line ≠ [])
    (hletter : ∀ c ∈ line, sameFolded 'c' c = false) (hblank : ∀ c ∈ line, isBlank c = false) :
    chart limits (String.ofList (fencedLine line)) = (spelled limits line).map chartLike := by
  have htagged : tagged? "chart" (fencedLine line) = none := by
    have hopening : 'c' ∈ openingTag "chart" := by decide
    have hnone : ∀ c ∈ fencedLine line, sameFolded 'c' c = false :=
      forall_mem_fencedLine (by decide) (by decide) hletter
    rw [tagged?, between?,
      splitFolded?_eq_none_iff.mpr (not_occursFolded_of_letter hopening hnone)]
    rfl
  have hbody : fenceBody? ('\n' :: (line ++ fenceEnd)) = some line := by
    have hnext : fenceBody? (line ++ fenceEnd) = none := by
      obtain ⟨c, rest, rfl⟩ := List.exists_cons_of_ne_nil hne
      rw [List.cons_append, fenceBody?, hblank c List.mem_cons_self]
      rfl
    have hbreak : isBlank '\n' = true := by decide
    have hcut : split? fenceEnd (line ++ (fenceEnd ++ [])) = some (line, []) :=
      split?_append (fun hmem => by simpa [hbreak] using hblank '\n' hmem) []
    rw [List.append_nil] at hcut
    rw [fenceBody?, if_pos hbreak, hnext]
    dsimp only
    rw [if_pos rfl, hcut]
    rfl
  have hfenced : fenced? "json".toList (fencedLine line) = some line := by
    have hword : fenceStart.Forall fun c => sameFolded c c = true := by decide
    rw [List.forall_iff_forall_mem] at hword
    have hopened : startsWithFolded? fenceStart (fenceStart ++ '\n' :: (line ++ fenceEnd)) =
        some ('\n' :: (line ++ fenceEnd)) :=
      startsWithFolded?_eq_some_iff.mpr ⟨_, rfl, List.forall₂_same.mpr hword⟩
    have hcons : fencedLine line = '\x60' :: (fencedLine line).tail := rfl
    rw [hcons, fenced?, ← hcons, ← fenceStart, fencedLine, hopened, Option.bind_some, hbody]
  rw [chart, String.toList_ofList, htagged, hfenced]

theorem chart_longNumber {n : Nat} (h : Number.mostDigits < n) :
    chart limits (String.ofList (fencedLine (List.replicate n '1'))) =
      .error (.tooManyDigits (some n)) := by
  have hdigit {P : Char → Prop} (hP : P '1') : ∀ c ∈ List.replicate n '1', P c := fun c hc =>
    List.eq_of_mem_replicate hc ▸ hP
  have hblank : ∀ c ∈ List.replicate n '1', isBlank c = false := hdigit (by decide)
  have hne : List.replicate n '1' ≠ [] := by simp [Nat.ne_zero_of_lt h]
  rw [chart_fenced hne (hdigit (by decide)) hblank, spelled, trimChars_of_forall hblank,
    Json.read_longNumber h]
  rfl

theorem chart_nested {n : Nat} (h : limits.reading < n) :
    chart limits (String.ofList (fencedLine (Json.nested n))) = .error (.tooDeep false) := by
  have hblank : ∀ c ∈ Json.nested n, isBlank c = false :=
    Json.forall_mem_nested (by decide) (by decide) n
  have hletter : ∀ c ∈ Json.nested n, sameFolded 'c' c = false :=
    Json.forall_mem_nested (by decide) (by decide) n
  have hne : Json.nested n ≠ [] := by simp [Json.nested, Nat.ne_zero_of_lt h]
  rw [chart_fenced hne hletter hblank, spelled, trimChars_of_forall hblank, Json.read_nested h]
  rfl

end ChartBoard.Assistant
