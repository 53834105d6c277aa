import ChartBoard.Proofs.Filtering.Store
import Mathlib.Data.List.Infix
import Mathlib.Logic.Function.Basic

/-!
# Filters by column

The store keeps filters by a key in which table and column are joined by a double colon.  For a
column whose key can be taken apart in one way only, that is as good as keeping them by the column
itself; any other column shares its filter with a second one.

* `Selections` is the map from columns to what was last selected for them.
* `Store.Keeps` says that the store keeps what the map holds for a column, whatever is done to the
  others.
* `eq_of_keyOf_eq` and `exists_keyOf_eq` say when two columns have one key.
* `keeps_iff_unambiguous` says of which columns `Store.Keeps` is true, `not_keeps` gives a column
  of which it is not.
-/

namespace ChartBoard.Filtering

variable {table column table' column' : String}

/-! ## Keys -/

/-- The key of a column holds no double colon but the one that joins the names: there is none in
either name, and neither name has a colon next to it. -/
def Unambiguous (table column : String) : Prop :=
  ¬ [':', ':'] <:+: table.toList ++ [':'] ∧ ¬ [':', ':'] <:+: ':' :: column.toList

theorem keyOf_eq_iff : keyOf table' column' = keyOf table column ↔
    table'.toList ++ ':' :: ':' :: column'.toList =
      table.toList ++ ':' :: ':' :: column.toList := by
  rw [← String.toList_inj]
  simp [keyOf]

theorem eq_of_keyOf_eq (h : Unambiguous table column)
    (hkey : keyOf table' column' = keyOf table column) : table' = table ∧ column' = column := by
  obtain ⟨htable, hcolumn⟩ := h
  rw [keyOf_eq_iff] at hkey
  -- the shorter table is the start of the longer one, and a rest would be found in the key again
  have hnone : table'.toList = table.toList := by
    rcases List.append_eq_append_iff.mp hkey with ⟨rest, hlonger, hrest⟩ | ⟨rest, hlonger, hrest⟩
    · cases rest with
      | nil => rw [hlonger, List.append_nil]
      | cons c rest =>
        have hcolons : [':', ':'] <+: (c :: rest) ++ [':'] := by
          have hstart : [':', ':'] <+: ':' :: ':' :: column'.toList := ⟨column'.toList, rfl⟩
          have hrest : (c :: rest) ++ [':'] <+: ':' :: ':' :: column'.toList := by
            rw [hrest]
            exact ⟨':' :: column.toList, by simp⟩
          exact List.prefix_of_prefix_length_le hstart hrest (by simp)
        refine absurd ?_ htable
        rw [hlonger, List.append_assoc]
        exact hcolons.isInfix.trans (List.suffix_append _ _).isInfix
    · cases rest with
      | nil => rw [hlonger, List.append_nil]
      | cons c rest =>
        have hcolons := (List.cons.inj hrest).2
        exact absurd ⟨rest, column'.toList, by rw [hcolons]; simp⟩ hcolumn
  rw [hnone, List.append_cancel_left_eq, List.cons.injEq, List.cons.injEq] at hkey
  exact ⟨String.toList_inj.mp hnone, String.toList_inj.mp hkey.2.2⟩

theorem exists_keyOf_eq (h : ¬ Unambiguous table column) :
    ∃ table' column', keyOf table' column' = keyOf table column ∧
      (table', column') ≠ (table, column) := by
  rw [Unambiguous, not_and_or, not_not, not_not] at h
  rcases h with ⟨before, after, hcolons⟩ | ⟨before, after, hcolons⟩
  · refine ⟨String.ofList before, String.ofList (after ++ ':' :: column.toList), ?_, ?_⟩
    · rw [keyOf_eq_iff]
      have := congrArg (· ++ ':' :: column.toList) hcolons
      simpa using this
    · rintro heq
      have hlength := congrArg List.length hcolons
      obtain rfl := (Prod.mk.inj heq).1
      simp at hlength
  · refine ⟨String.ofList (table.toList ++ ':' :: before), String.ofList after, ?_, ?_⟩
    · rw [keyOf_eq_iff]
      have := congrArg (table.toList ++ ':' :: ·) hcolons
      simpa using this
    · rintro heq
      have hlonger := congrArg String.toList (Prod.mk.inj heq).1
      simp at hlonger

/-! ## Edits -/

/-- An edit of the filters by column. -/
inductive Edit where
  | set (f : ActiveFilter)
  | clear (table column : String)
  | clearAll

/-- The column that an edit is about, if it is about a single one. -/
def Edit.column? : Edit → Option (String × String)
  | set f => some (f.table, f.column)
  | clear table column => some (table, column)
  | clearAll => none

/-- The store after an edit. -/
def Store.edit (s : Store) : Edit → Store
  | .set f => s.put f
  | .clear table column => s.erase table column
  | .clearAll => s.clear

/-- The store after edits of an empty one. -/
def Store.edited (edits : List Edit) : Store := edits.foldl Store.edit {}

/-- What was last selected for each column and not cleared since. -/
abbrev Selections : Type := String × String → Option (List Datum)

namespace Selections

/-- The selections after an edit. -/
def edit (m : Selections) : Edit → Selections
  | .set f => Function.update m (f.table, f.column) (some f.values)
  | .clear table column => Function.update m (table, column) none
  | .clearAll => fun _ => none

/-- The selections after edits, none at first. -/
def edited (edits : List Edit) : Selections := edits.foldl edit fun _ => none

theorem edit_of_ne {m : Selections} {e : Edit} {place other : String × String}
    (he : e.column? = some place) (hne : place ≠ other) : m.edit e other = m other := by
  cases e with
  | set f =>
    obtain rfl := Option.some.inj he
    exact Function.update_of_ne hne.symm _ _
  | clear table column =>
    obtain rfl := Option.some.inj he
    exact Function.update_of_ne hne.symm _ _
  | clearAll => cases he

end Selections

namespace Store

variable {s : Store} {m : Selections}

/-- The store has a filter of a column with what is selected for it, or none if nothing is. -/
def Shows (s : Store) (m : Selections) (table column : String) : Prop :=
  match m (table, column) with
  | some values => ∃ f, s.get? table column = some f ∧ f.table = table ∧ f.column = column ∧
      sameSelection f.values values = true
  | none => s.get? table column = none

/-- After all edits, the store has for a column what was last selected for it, and no edit of
another column touches that. -/
def Keeps (table column : String) : Prop :=
  ∀ edits, Shows (edited edits) (Selections.edited edits) table column ∧
    ∀ e place, e.column? = some place → place ≠ (table, column) →
      ((edited edits).edit e).get? table column = (edited edits).get? table column

theorem get?_edit_of_ne (h : Unambiguous table column) {e : Edit} {place : String × String}
    (he : e.column? = some place) (hne : place ≠ (table, column)) :
    (s.edit e).get? table column = s.get? table column := by
  have hkey : keyOf place.1 place.2 ≠ keyOf table column := fun hkey =>
    hne (Prod.ext_iff.mpr (eq_of_keyOf_eq h hkey))
  cases e with
  | set f =>
    obtain rfl := Option.some.inj he
    exact find?_put_of_ne s hkey
  | clear table' column' =>
    obtain rfl := Option.some.inj he
    exact (find?_erase s table' column' _).trans (if_neg hkey)
  | clearAll => cases he

theorem shows_put (h : Shows s m table column) {f : ActiveFilter} (htable : f.table = table)
    (hcolumn : f.column = column) : Shows (s.put f) (m.edit (.set f)) table column := by
  subst htable hcolumn
  have hset : m.edit (.set f) (f.table, f.column) = some f.values := Function.update_self _ _ _
  unfold Shows
  rw [hset]
  rcases find?_put_self s f with hnew | ⟨hsame, g, hg, hselection⟩
  · exact ⟨f, hnew, rfl, rfl, sameSelection_refl _⟩
  · -- the filter that was there has the same selection and stays
    unfold Shows at h
    split at h
    · obtain ⟨g', hg', hgtable, hgcolumn, -⟩ := h
      obtain rfl : g = g' := Option.some.inj (hg.symm.trans hg')
      exact ⟨g, by rw [hsame]; exact hg, hgtable, hgcolumn, hselection⟩
    · exact absurd (hg.symm.trans h) (Option.some_ne_none g)

theorem shows_edit (hkey : Unambiguous table column) (h : Shows s m table column) (e : Edit) :
    Shows (s.edit e) (m.edit e) table column := by
  by_cases hother : ∃ place, e.column? = some place ∧ place ≠ (table, column)
  · obtain ⟨place, he, hne⟩ := hother
    unfold Shows
    rw [Selections.edit_of_ne he hne, get?_edit_of_ne hkey he hne]
    exact h
  · cases e with
    | set f =>
      have hsame : (f.table, f.column) = (table, column) := by
        by_contra hne
        exact hother ⟨_, rfl, hne⟩
      exact shows_put h (Prod.mk.inj hsame).1 (Prod.mk.inj hsame).2
    | clear table' column' =>
      have hsame : (table', column') = (table, column) := by
        by_contra hne
        exact hother ⟨_, rfl, hne⟩
      obtain ⟨rfl, rfl⟩ := Prod.mk.inj hsame
      have hcleared : m.edit (.clear table' column') (table', column') = none :=
        Function.update_self _ _ _
      unfold Shows
      rw [hcleared]
      exact (find?_erase s table' column' _).trans (if_pos rfl)
    | clearAll => exact find?_clear s _

theorem shows_edited (hkey : Unambiguous table column) (edits : List Edit) :
    Shows (edited edits) (Selections.edited edits) table column := by
  have hfold (s : Store) (m : Selections) (h : Shows s m table column) :
      Shows (edits.foldl edit s) (edits.foldl Selections.edit m) table column := by
    induction edits generalizing s m with
    | nil => exact h
    | cons e edits ih => exact ih _ _ (shows_edit hkey h e)
  exact hfold {} (fun _ => none) rfl

/-- A column keeps its filter just when its key can be taken apart in one way only. -/
theorem keeps_iff_unambiguous (table column : String) :
    Keeps table column ↔ Unambiguous table column := by
  constructor
  · intro hkeeps
    by_contra hkey
    obtain ⟨table', column', hsame, hne⟩ := exists_keyOf_eq hkey
    -- a filter of the other column is found here as well
    have hfound : (edited [.set ⟨table', column', []⟩]).get? table column =
        some ⟨table', column', []⟩ := by
      rw [get?, ← hsame]
      simp [edited, edit, put, holds, find?, place, ActiveFilter.key]
    have hunchanged := (hkeeps []).2 (.set ⟨table', column', []⟩) (table', column') rfl hne
    rw [show (edited []).edit (.set ⟨table', column', []⟩) = edited [.set ⟨table', column', []⟩]
      from rfl, hfound] at hunchanged
    cases hunchanged
  · exact fun hkey edits => ⟨shows_edited hkey edits, fun e place he hne =>
      get?_edit_of_ne hkey he hne⟩

/-- A filter on the column `x` of the table `a::b` is taken for one on the column `b::x` of the
table `a`. -/
theorem not_keeps : ¬ ∀ edits table column,
    Shows (edited edits) (Selections.edited edits) table column := by
  intro h
  have hshows := h [.set ⟨"a::b", "x", [.int 1]⟩] "a" "b::x"
  have hnone : Selections.edited [.set ⟨"a::b", "x", [.int 1]⟩] ("a", "b::x") = none := rfl
  unfold Shows at hshows
  rw [hnone] at hshows
  cases hshows

end Store

end ChartBoard.Filtering
