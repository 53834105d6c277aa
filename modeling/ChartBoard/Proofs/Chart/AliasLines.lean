import ChartBoard.Chart.SeriesAlias
import ChartBoard.Proofs.Keyed
import ChartBoard.Proofs.Text.Blank
import ChartBoard.Proofs.Text.Lines
import ChartBoard.Proofs.Text.Search

/-!
# New names written on lines

A text of lines `name = alias` or `name : alias` is read as just these names and aliases, whatever
spaces and tabs stand around them and whatever other lines stand between them.

* `IsEntry` is a line for a name and its alias, `AliasLines` a sequence of lines with all of them.
* `aliasOfLine?_entry` reads one line, `aliasesOfText_lists` the text.
-/

namespace ChartBoard.Chart

open Text

/-! ## Lines -/

/-- True of spaces and tabs. -/
def IsGap (cs : List Char) : Prop := ∀ c ∈ cs, c = ' ' ∨ c = '\t'

/-- True of a text that can stand on a line between gaps: it is not empty, has no blanks around it
and ends no line. -/
structure IsPart (s : String) : Prop where
  ne_empty : s ≠ ""
  trimmed : trim s = s
  oneLine : ∀ c ∈ s.toList, endsLine c = false

/-- True of a name and an alias that can be written on a line.  The alias may have any of the marks
in it. -/
structure IsWritable (p : String × String) : Prop where
  name : IsPart p.1
  new : IsPart p.2
  noMark : ∀ c ∈ p.1.toList, isAliasMark c = false

/-- True of a line with a name and its alias, with a mark between them and gaps around all three. -/
inductive IsEntry (p : String × String) : List Char → Prop
  | mk {mark : Char} {gap₁ gap₂ gap₃ gap₄ : List Char} (hmark : isAliasMark mark = true)
      (h₁ : IsGap gap₁) (h₂ : IsGap gap₂) (h₃ : IsGap gap₃) (h₄ : IsGap gap₄) :
      IsEntry p (gap₁ ++ (p.1.toList ++ gap₂) ++ mark :: (gap₃ ++ (p.2.toList ++ gap₄)))

/-- True of lines that hold names with their aliases in turn, and between them lines without a
mark. -/
inductive AliasLines : Aliases → List (List Char) → Prop
  | nil : AliasLines [] []
  | entry {p : String × String} {pairs : Aliases} {line : List Char} {lines : List (List Char)}
      (hline : IsEntry p line) (hrest : AliasLines pairs lines) :
      AliasLines (p :: pairs) (line :: lines)
  | other {pairs : Aliases} {line : List Char} {lines : List (List Char)}
      (hmark : ∀ c ∈ line, isAliasMark c = false) (hend : ∀ c ∈ line, endsLine c = false)
      (hrest : AliasLines pairs lines) : AliasLines pairs (line :: lines)

/-! ## Reading -/

theorem IsGap.isBlank {gap : List Char} (h : IsGap gap) : ∀ c ∈ gap, isBlank c = true := by
  intro c hc
  rcases h c hc with rfl | rfl <;> decide

theorem IsGap.noMark {gap : List Char} (h : IsGap gap) : ∀ c ∈ gap, isAliasMark c = false := by
  intro c hc
  rcases h c hc with rfl | rfl <;> decide

theorem IsGap.oneLine {gap : List Char} (h : IsGap gap) : ∀ c ∈ gap, endsLine c = false := by
  intro c hc
  rcases h c hc with rfl | rfl <;> decide

theorem trimmedPart?_gaps {s : String} (hs : IsPart s) {before after : List Char}
    (hbefore : IsGap before) (hafter : IsGap after) :
    trimmedPart? (before ++ (s.toList ++ after)) = some s := by
  have htrim : trimChars (before ++ (s.toList ++ after)) = s.toList := by
    rw [trimChars_append_of_blank hbefore.isBlank hafter.isBlank, ← toList_trim, hs.trimmed]
  have hne : s.toList ≠ [] := by simpa using hs.ne_empty
  rw [trimmedPart?, htrim]
  split
  · rename_i hempty
    exact absurd hempty hne
  · rw [String.ofList_toList]

theorem aliasOfLine?_mark {before after : List Char} {mark : Char} {name new : String}
    (hbefore : ∀ c ∈ before, isAliasMark c = false) (hmark : isAliasMark mark = true)
    (hname : trimmedPart? before = some name) (hnew : trimmedPart? after = some new) :
    aliasOfLine? (String.ofList (before ++ mark :: after)) = some (name, new) := by
  have hunmarked : ∀ c ∈ before, (!isAliasMark c) = true := by simpa using hbefore
  have hends : (!isAliasMark mark) = false := by simp [hmark]
  rw [aliasOfLine?, String.toList_ofList, takeWhile_append_cons hunmarked hends,
    dropWhile_append_cons hunmarked hends]
  simp only [hname, hnew]

theorem aliasOfLine?_entry {p : String × String} (hp : IsWritable p) {line : List Char}
    (h : IsEntry p line) : aliasOfLine? (String.ofList line) = some p := by
  obtain ⟨hmark, h₁, h₂, h₃, h₄⟩ := h
  refine aliasOfLine?_mark ?_ hmark (trimmedPart?_gaps hp.name h₁ h₂)
    (trimmedPart?_gaps hp.new h₃ h₄)
  simp only [List.forall_mem_append]
  exact ⟨h₁.noMark, hp.noMark, h₂.noMark⟩

theorem aliasOfLine?_of_noMark {line : List Char} (h : ∀ c ∈ line, isAliasMark c = false) :
    aliasOfLine? (String.ofList line) = none := by
  have hdrop : line.dropWhile (!isAliasMark ·) = [] :=
    List.dropWhile_eq_nil_iff.mpr fun c hc => by rw [h c hc]; rfl
  rw [aliasOfLine?, String.toList_ofList, hdrop]

/-- No line is ended within an entry. -/
theorem IsEntry.oneLine {p : String × String} (hp : IsWritable p) {line : List Char}
    (h : IsEntry p line) : ∀ c ∈ line, endsLine c = false := by
  obtain ⟨hmark, h₁, h₂, h₃, h₄⟩ := h
  have hend (mark : Char) (h : isAliasMark mark = true) : endsLine mark = false := by
    rcases (by simpa [isAliasMark] using h : mark = '=' ∨ mark = ':') with rfl | rfl <;> decide
  simp only [List.forall_mem_append, List.forall_mem_cons]
  exact ⟨⟨h₁.oneLine, hp.name.oneLine, h₂.oneLine⟩, hend _ hmark, h₃.oneLine, hp.new.oneLine,
    h₄.oneLine⟩

namespace AliasLines

variable {pairs : Aliases} {lines : List (List Char)}

theorem filterMap_eq (h : AliasLines pairs lines) (hpairs : ∀ p ∈ pairs, IsWritable p) :
    (lines.filterMap fun line => aliasOfLine? (String.ofList line)) = pairs := by
  induction h with
  | nil => rfl
  | entry hline _ ih =>
    have hread := aliasOfLine?_entry (hpairs _ List.mem_cons_self) hline
    simp only [List.filterMap_cons, hread, ih fun p hp => hpairs p (List.mem_cons_of_mem _ hp)]
  | other hmark _ _ ih =>
    simp only [List.filterMap_cons, aliasOfLine?_of_noMark hmark, ih hpairs]

theorem oneLine (h : AliasLines pairs lines) (hpairs : ∀ p ∈ pairs, IsWritable p) :
    ∀ line ∈ lines, ∀ c ∈ line, endsLine c = false := by
  induction h with
  | nil => exact fun _ hline => nomatch hline
  | entry hline _ ih =>
    exact List.forall_mem_cons.mpr ⟨hline.oneLine (hpairs _ List.mem_cons_self),
      ih fun p hp => hpairs p (List.mem_cons_of_mem _ hp)⟩
  | other _ hend _ ih => exact List.forall_mem_cons.mpr ⟨hend, ih hpairs⟩

end AliasLines

/-- A text whose lines hold names with their aliases is read as these, in their order. -/
theorem aliasesOfText_lists {pairs : Aliases} (hpairs : ∀ p ∈ pairs, IsWritable p)
    (hnames : (pairs.map (·.1)).Nodup) {lines : List (List Char)} (hlines : AliasLines pairs lines)
    {text : String} (htext : Lined lines text.toList) : aliasesOfText text = pairs := by
  have hread : (Text.lines text).filterMap aliasOfLine? = pairs := by
    rw [Text.lines, List.filterMap_map, filterMap_linesFrom rfl htext (hlines.oneLine hpairs)]
    exact hlines.filterMap_eq hpairs
  rw [aliasesOfText, hread, Keyed.ofPairs_of_nodup hnames]

/-- Three lines of which the second has no mark.  The alias of the first has both marks in it, and
the ends of the lines differ. -/
theorem aliasesOfText_lists_marks :
    ([("north", "N = 1: x"), ("so uth", "=S")].map (·.1)).Nodup ∧
      aliasesOfText "north:\tN = 1: x\r\n so\r so uth = =S \n" =
        [("north", "N = 1: x"), ("so uth", "=S")] := by
  have hpart (s : String) (hne : s ≠ "") (htrim : trim s = s)
      (hend : s.toList.all (!endsLine ·) = true) : IsPart s :=
    ⟨hne, htrim, by simpa using hend⟩
  have hwritable (name new : String) (hname : IsPart name) (hnew : IsPart new)
      (hmark : name.toList.all (!isAliasMark ·) = true) : IsWritable (name, new) :=
    ⟨hname, hnew, by simpa using hmark⟩
  have hpairs : ∀ p ∈ [("north", "N = 1: x"), ("so uth", "=S")], IsWritable p := by
    refine List.forall_mem_cons.mpr ⟨?_, List.forall_mem_singleton.mpr ?_⟩
    · exact hwritable _ _ (hpart _ (by decide) rfl rfl) (hpart _ (by decide) rfl rfl) rfl
    · exact hwritable _ _ (hpart _ (by decide) rfl rfl) (hpart _ (by decide) rfl rfl) rfl
  have hgap (gap : List Char) (h : gap.all (fun c => c == ' ' || c == '\t') = true) :
      IsGap gap := by
    simpa [IsGap] using h
  have hlines : AliasLines [("north", "N = 1: x"), ("so uth", "=S")]
      ["north:\tN = 1: x".toList, " so".toList, " so uth = =S ".toList] := by
    refine .entry ?_ (.other ?_ ?_ (.entry ?_ .nil))
    · exact .mk rfl (hgap [] rfl) (hgap [] rfl) (hgap ['\t'] rfl) (hgap [] rfl)
    · simp [isAliasMark]
    · simp [endsLine]
    · exact .mk rfl (hgap [' '] rfl) (hgap [' '] rfl) (hgap [' '] rfl) (hgap [' '] rfl)
  have htext : Lined ["north:\tN = 1: x".toList, " so".toList, " so uth = =S ".toList]
      "north:\tN = 1: x\r\n so\r so uth = =S \n".toList :=
    .cons _ .pair (.cons _ (.one rfl) (.cons _ (.one rfl) .nil))
  have hnames : ([("north", "N = 1: x"), ("so uth", "=S")].map (·.1)).Nodup := by decide
  exact ⟨hnames, aliasesOfText_lists hpairs hnames hlines htext⟩

end ChartBoard.Chart
