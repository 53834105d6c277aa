import ChartBoard.Proofs.Chart.AliasLines
import ChartBoard.Proofs.Chart.Shape
import ChartBoard.Proofs.Text.Search

/-!
# Half-typed lines of new names

Pairs of names and aliases are trimmed, and those with nothing left are skipped.  A line of a text
with blanks alone on one side of its mark is not skipped: the last of the blanks counts as its name
or as its alias.  But no new name is the empty text, so that a series and its entry in the legend
always change their names together.

* `isTidy_iff_of_aliasOfLine?` says so of one line, `tidy_iff` of whole texts: all that is read is
  tidy exactly if each half-typed line is overruled by a later one.
* `not_tidy` is a line that gives a series a blank name.
* `truthy_newName?` says that no new name is empty.
-/

namespace ChartBoard.Chart

open Text

/-- True of a text that is not empty and has no blanks around it. -/
structure IsTidy (s : String) : Prop where
  ne_empty : s ≠ ""
  trimmed : trim s = s

/-- True of new names that are tidy, as are the old ones. -/
def Tidy (aliases : Aliases) : Prop := ∀ p ∈ aliases, IsTidy p.1 ∧ IsTidy p.2

/-- True of a line with no more than blanks on one side of its first mark. -/
def IsHalfTyped (line : String) : Prop :=
  ∃ before mark after, line.toList = before ++ mark :: after ∧ isAliasMark mark = true ∧
    (∀ c ∈ before, isAliasMark c = false) ∧
    ((∀ c ∈ before, isBlank c = true) ∨ ∀ c ∈ after, isBlank c = true)

/-- True of a line of a text that gives a name its alias: no later line has one for that name. -/
def Decides (text line : String) (p : String × String) : Prop :=
  aliasOfLine? line = some p ∧ ∃ before after, lines text = before ++ line :: after ∧
    ∀ later ∈ after, ∀ q, aliasOfLine? later = some q → q.1 ≠ p.1

/-! ## One line -/

theorem isTidy_trim {s : String} (h : trim s ≠ "") : IsTidy (trim s) := ⟨h, trim_trim s⟩

/-- A part of a line is tidy unless the line has blanks alone in its place. -/
theorem isTidy_iff_of_trimmedPart? {cs : List Char} {s : String} (h : trimmedPart? cs = some s) :
    IsTidy s ↔ ¬ ∀ c ∈ cs, isBlank c = true := by
  rw [← trimChars_eq_nil_iff]
  unfold trimmedPart? at h
  split at h
  · rename_i hempty
    obtain ⟨c, hlast, rfl⟩ := Option.map_eq_some_iff.mp h
    have hblank : isBlank c = true :=
      trimChars_eq_nil_iff.mp hempty c (List.mem_of_getLast? hlast)
    have hnone : trimChars [c] = [] := trimChars_eq_nil_iff.mpr (by simpa using hblank)
    have htrim : trim (String.ofList [c]) = "" := by
      rw [trim, String.toList_ofList, hnone, String.ofList_nil]
    refine iff_of_false (fun htidy => ?_) (not_not_intro hempty)
    have hne := htidy.ne_empty
    rw [← htidy.trimmed, htrim] at hne
    exact hne rfl
  · rename_i hkept
    obtain rfl := Option.some.inj h
    have htidy := isTidy_trim (s := String.ofList cs)
    rw [trim, String.toList_ofList] at htidy
    exact iff_of_true (htidy (by simpa using hkept)) hkept

theorem ne_empty_of_trimmedPart? {cs : List Char} {s : String} (h : trimmedPart? cs = some s) :
    s ≠ "" := by
  unfold trimmedPart? at h
  split at h
  · obtain ⟨c, -, rfl⟩ := Option.map_eq_some_iff.mp h
    simp
  · rename_i kept hkept
    obtain rfl := Option.some.inj h
    simpa using hkept

/-- A line is cut at its first mark in one way only. -/
theorem eq_of_cut {before before' after after' : List Char} {mark mark' : Char}
    (h : before ++ mark :: after = before' ++ mark' :: after') (hmark : isAliasMark mark = true)
    (hmark' : isAliasMark mark' = true) (hbefore : ∀ c ∈ before, isAliasMark c = false)
    (hbefore' : ∀ c ∈ before', isAliasMark c = false) : before = before' ∧ after = after' := by
  have htake (cs rest : List Char) (m : Char) (hm : isAliasMark m = true)
      (hcs : ∀ c ∈ cs, isAliasMark c = false) :
      (cs ++ m :: rest).takeWhile (!isAliasMark ·) = cs :=
    takeWhile_append_cons (by simpa using hcs) (by simp [hm]) rest
  have hsame : before = before' := by
    rw [← htake before after mark hmark hbefore, h, htake before' after' mark' hmark' hbefore']
  subst hsame
  exact ⟨rfl, (List.cons.inj (List.append_cancel_left h)).2⟩

/-- A name and an alias are read from the two sides of the first mark. -/
theorem exists_cut_of_aliasOfLine? {line : String} {p : String × String}
    (h : aliasOfLine? line = some p) :
    ∃ before mark after, line.toList = before ++ mark :: after ∧ isAliasMark mark = true ∧
      (∀ c ∈ before, isAliasMark c = false) ∧ trimmedPart? before = some p.1 ∧
      trimmedPart? after = some p.2 := by
  unfold aliasOfLine? at h
  split at h
  · cases h
  · rename_i mark after hdrop
    split at h
    · rename_i name new hname hnew
      obtain rfl := Option.some.inj h
      obtain ⟨hmark, hline⟩ := eq_takeWhile_append_of_dropWhile hdrop
      refine ⟨line.toList.takeWhile (!isAliasMark ·), mark, after, hline, by simpa using hmark,
        fun c hc => ?_, hname, hnew⟩
      simpa using List.mem_takeWhile_imp hc
    · cases h

/-- What a line gives is tidy unless the line is half-typed. -/
theorem isTidy_iff_of_aliasOfLine? {line : String} {p : String × String}
    (h : aliasOfLine? line = some p) : IsTidy p.1 ∧ IsTidy p.2 ↔ ¬ IsHalfTyped line := by
  obtain ⟨before, mark, after, hline, hmark, hbefore, hname, hnew⟩ := exists_cut_of_aliasOfLine? h
  rw [isTidy_iff_of_trimmedPart? hname, isTidy_iff_of_trimmedPart? hnew, ← not_or, not_iff_not]
  constructor
  · exact fun hblank => ⟨before, mark, after, hline, hmark, hbefore, hblank⟩
  · rintro ⟨before', mark', after', hline', hmark', hbefore', hblank⟩
    obtain ⟨rfl, rfl⟩ := eq_of_cut (hline.symm.trans hline') hmark hmark' hbefore hbefore'
    exact hblank

/-! ## Whole texts -/

theorem mem_aliasesOfText_iff {text : String} {p : String × String} :
    p ∈ aliasesOfText text ↔ ∃ line, Decides text line p := by
  have hafter {after : List String} : p.1 ∉ (after.filterMap aliasOfLine?).map (·.1) ↔
      ∀ later ∈ after, ∀ q, aliasOfLine? later = some q → q.1 ≠ p.1 := by
    rw [List.mem_map, not_exists]
    simp only [List.mem_filterMap, not_and]
    exact ⟨fun h later hlater q hq heq => h q ⟨later, hlater, hq⟩ heq,
      fun h q ⟨later, hlater, hq⟩ heq => h later hlater q hq heq⟩
  rw [aliasesOfText, Keyed.mem_ofPairs_iff]
  constructor
  · rintro ⟨pairsBefore, pairsAfter, hsplit, hlast⟩
    obtain ⟨before, rest, hlines, -, hrest⟩ := List.filterMap_eq_append_iff.mp hsplit
    obtain ⟨skipped, line, after, rfl, -, hline, rfl⟩ := List.filterMap_eq_cons_iff.mp hrest
    exact ⟨line, hline, before ++ skipped, after, by rw [hlines, List.append_assoc],
      hafter.mp hlast⟩
  · rintro ⟨line, hline, before, after, hlines, hlast⟩
    refine ⟨before.filterMap aliasOfLine?, after.filterMap aliasOfLine?, ?_, hafter.mpr hlast⟩
    rw [hlines, List.filterMap_append, List.filterMap_cons, hline]

theorem tidy_aliasesOfText_iff (text : String) : Tidy (aliasesOfText text) ↔
    ∀ line p, Decides text line p → ¬ IsHalfTyped line := by
  constructor
  · intro h line p hline
    exact (isTidy_iff_of_aliasOfLine? hline.1).mp (h p (mem_aliasesOfText_iff.mpr ⟨line, hline⟩))
  · intro h p hp
    obtain ⟨line, hline⟩ := mem_aliasesOfText_iff.mp hp
    exact (isTidy_iff_of_aliasOfLine? hline.1).mpr (h line p hline)

theorem tidy_aliasesOfPairs (pairs : List (String × String)) : Tidy (aliasesOfPairs pairs) := by
  intro p hp
  obtain ⟨hmem, hkept⟩ := List.mem_filter.mp (Keyed.mem_of_mem_ofPairs hp)
  obtain ⟨⟨name, new⟩, -, rfl⟩ := List.mem_map.mp hmem
  simp only [Bool.and_eq_true, Bool.not_eq_true', ← Bool.not_eq_true, String.isEmpty_iff] at hkept
  exact ⟨isTidy_trim hkept.1, isTidy_trim hkept.2⟩

/-! ## No new name is empty -/

theorem ne_empty_of_mem_aliasesOfText {text : String} {p : String × String}
    (h : p ∈ aliasesOfText text) : p.2 ≠ "" := by
  obtain ⟨line, hline, -⟩ := mem_aliasesOfText_iff.mp h
  obtain ⟨_, _, _, -, -, -, -, hnew⟩ := exists_cut_of_aliasOfLine? hline
  exact ne_empty_of_trimmedPart? hnew

theorem ne_empty_of_mem_aliasesOfPairs {pairs : List (String × String)} {p : String × String}
    (h : p ∈ aliasesOfPairs pairs) : p.2 ≠ "" := (tidy_aliasesOfPairs pairs p h).2.ne_empty

theorem truthy_newName? {aliases : Aliases} (haliases : ∀ p ∈ aliases, p.2 ≠ "") {v new : Datum}
    (h : newName? (newNames aliases) v = some new) : new.truthy = true := by
  obtain ⟨p, hp, hnew⟩ := List.mem_map.mp (Keyed.mem_of_get? h)
  obtain ⟨-, rfl⟩ := Prod.mk.inj hnew
  simpa [Datum.truthy] using haliases p hp

/-! ## Series under new names -/

/-- True of a series before and after it is renamed, if it keeps its name or gets a tidy one. -/
def TidilyNamed (old new : Datum) : Prop :=
  new = old ∨ ∃ members s, IsTidy s ∧ old = .object members ∧
    new = .object (Record.set members "name" (.text s))

theorem tidilyNamed_renamedSeries {aliases : Aliases} (h : Tidy aliases) (v : Datum) :
    TidilyNamed v (renamedSeries (newNames aliases) v) := by
  cases v with
  | object members =>
    rw [renamedSeries]
    split
    · rename_i new hnew
      obtain ⟨p, hp, heq⟩ := List.mem_map.mp (Keyed.mem_of_get? hnew)
      obtain ⟨-, rfl⟩ := Prod.mk.inj heq
      split
      · exact .inr ⟨members, p.2, (h p hp).2, rfl, rfl⟩
      · exact .inl rfl
    · exact .inl rfl
  | _ => exact .inl rfl

/-- Pairs give tidy names and aliases alone.  A text does exactly if no line that decides on an
alias is half-typed.  Under tidy new names every series of a chart keeps its name or gets a tidy
one. -/
theorem tidy_iff (pairs : List (String × String)) (text : String) :
    Tidy (aliasesOfPairs pairs) ∧
    (Tidy (aliasesOfText text) ↔ ∀ line p, Decides text line p → ¬ IsHalfTyped line) ∧
    ∀ aliases, Tidy aliases → ∀ chart series, Record.get chart "series" = .list series →
      ∃ named, Record.get (renamed (newNames aliases) chart) "series" = .list named ∧
        List.Forall₂ TidilyNamed series named := by
  refine ⟨tidy_aliasesOfPairs pairs, tidy_aliasesOfText_iff text,
    fun aliases h chart series hseries => ?_⟩
  refine ⟨_, get_renamed_series hseries, ?_⟩
  rw [List.forall₂_map_right_iff, List.forall₂_same]
  exact fun v _ => tidilyNamed_renamedSeries h v

/-- The first line is half-typed, and overruled by the second. -/
theorem tidy_iff_overruled :
    let aliases := aliasesOfText "Sales= \n Sales = Turnover"
    let series : List Datum := [.object [("name", .text "Sales")]]
    Tidy aliases ∧ Record.get [("series", .list series)] "series" = .list series ∧
      ∃ named, Record.get (renamed (newNames aliases) [("series", .list series)]) "series" =
        .list named ∧ List.Forall₂ TidilyNamed series named := by
  intro aliases series
  have haliases : aliases = [("Sales", "Turnover")] := by decide +kernel
  have htidy : Tidy aliases := by
    rw [haliases]
    exact List.forall_mem_singleton.mpr ⟨⟨by decide, rfl⟩, ⟨by decide, rfl⟩⟩
  exact ⟨htidy, rfl, (tidy_iff [] "Sales= \n Sales = Turnover").2.2 aliases htidy _ series rfl⟩

/-- Behind the mark there is a space, which becomes the name of the series. -/
theorem not_tidy : (¬ ∀ text, Tidy (aliasesOfText text)) ∧
    renamedSeries (newNames (aliasesOfText "Sales= ")) (.object [("name", .text "Sales")]) =
      .object [("name", .text " ")] := by
  have haliases : aliasesOfText "Sales= " = [("Sales", " ")] := by decide +kernel
  constructor
  · intro h
    have hmem : ("Sales", " ") ∈ aliasesOfText "Sales= " := by
      rw [haliases]
      exact List.mem_singleton_self _
    have hempty := (h _ _ hmem).2.trimmed
    have htrim : trim " " = "" := by decide
    rw [htrim] at hempty
    exact absurd hempty (by decide)
  · rw [haliases]
    rfl

end ChartBoard.Chart
