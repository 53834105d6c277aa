import ChartBoard.Datum.Reading
import ChartBoard.Datum.Unique
import Mathlib.Data.List.Nodup
import Mathlib.Logic.ExistsUnique

/-!
# Distinct values

Values with one key have one kind and one text, so that it does not matter which of them is kept.
The distinct values of a list are those at its first places, at which a kind and a text are met that
no value before has.  What was met does not come again, so that it makes no difference whether lists
are merged one after the other or at once.

* `display_eq_of_key_eq` says that of their texts, `normalLabel_eq_of_key_eq` of what they are
  compared by as labels, `key_eq_of_label_eq` the converse for a column of one type.
* `exists_mem_distinct` says that what only depends on the key is not lost among the distinct
  values, `nodup_distinct` that no key is there twice.
* `firstOfEach_distinct` says which values are kept, and that each kind and text has exactly one.
* `distinct_append` splits the distinct values of two lists; `distinct_distinct_append`,
  `distinct_append_distinct` and `foldl_mergeDistinct` are the laws of merging that follow.
-/

namespace ChartBoard

namespace Datum

variable {v w : Datum}

theorem colon_notMem_kindName (v : Datum) : ':' ∉ v.kindName.toList := by
  cases v <;> simp [kindName]

theorem key_eq_iff : v.key = w.key ↔ v.kindName = w.kindName ∧ v.display = w.display := by
  constructor
  · intro h
    have hchars : v.kindName.toList ++ ':' :: v.display.toList =
        w.kindName.toList ++ ':' :: w.display.toList := by
      simpa [key] using congrArg String.toList h
    -- the kind is what stands before the first colon
    have hkind (u : Datum) (rest : List Char) :
        (u.kindName.toList ++ ':' :: rest).takeWhile (· ≠ ':') = u.kindName.toList := by
      have hall : ∀ c ∈ u.kindName.toList, (decide (c ≠ ':')) = true := fun c hc =>
        decide_eq_true fun hcolon => u.colon_notMem_kindName (hcolon ▸ hc)
      rw [List.takeWhile_append_of_pos hall]
      simp
    have hkinds := congrArg (List.takeWhile (· ≠ ':')) hchars
    rw [hkind, hkind] at hkinds
    rw [hkinds, List.append_cancel_left_eq, List.cons.injEq] at hchars
    exact ⟨String.toList_inj.mp hkinds, String.toList_inj.mp hchars.2⟩
  · rintro ⟨hkind, hdisplay⟩
    rw [key, key, hkind, hdisplay]

/-- What two values have in common when one of them stands for both. -/
def kindAndText (v : Datum) : String × String := (v.kindName, v.display)

theorem kindAndText_eq_iff : v.kindAndText = w.kindAndText ↔ v.key = w.key := by
  rw [kindAndText, kindAndText, Prod.mk.injEq, key_eq_iff]

theorem display_eq_of_key_eq (h : v.key = w.key) : v.display = w.display := (key_eq_iff.mp h).2

theorem isNull_eq_kindName (v : Datum) : v.isNull = (v.kindName == "NoneType") := by
  cases v <;> rfl

theorem isNull_eq_of_key_eq (h : v.key = w.key) : v.isNull = w.isNull := by
  rw [isNull_eq_kindName, isNull_eq_kindName, (key_eq_iff.mp h).1]

theorem label_eq_of_key_eq (h : v.key = w.key) : v.label = w.label := by
  rw [label, label, isNull_eq_of_key_eq h, display_eq_of_key_eq h]

theorem normalLabel_eq_of_key_eq (h : v.key = w.key) : normalLabel v = normalLabel w := by
  rw [normalLabel, normalLabel, label_eq_of_key_eq h]

/-- True of two values that a column of one type can hold. -/
def OfOneType (v w : Datum) : Prop := v.isNull = true ∨ w.isNull = true ∨ v.kindName = w.kindName

/-- In a column of one type a label that is not empty tells values apart. -/
theorem key_eq_of_label_eq (htype : OfOneType v w) (hne : v.label ≠ "") (h : v.label = w.label) :
    v.key = w.key := by
  have hv : v.isNull = false := by
    cases v <;> first | rfl | exact absurd rfl hne
  have hw : w.isNull = false := by
    cases w <;> first | rfl | exact absurd h hne
  rcases htype with hnull | hnull | hkind
  · exact absurd hnull (by simp [hv])
  · exact absurd hnull (by simp [hw])
  · refine key_eq_iff.mpr ⟨hkind, ?_⟩
    simpa [label, hv, hw] using h

end Datum

/-! ## What is kept -/

theorem mem_of_mem_distinctFrom {seen : List String} {values : List Datum} {v : Datum}
    (h : v ∈ distinctFrom seen values) : v ∈ values := by
  induction values generalizing seen with
  | nil => exact h
  | cons w rest ih =>
    rw [distinctFrom] at h
    split at h
    · exact List.mem_cons_of_mem w (ih h)
    · rcases List.mem_cons.mp h with rfl | hrest
      · exact List.mem_cons_self
      · exact List.mem_cons_of_mem w (ih hrest)

/-- Every value has its key among those seen before and those of the values that are kept. -/
theorem exists_key_of_mem {values : List Datum} {v : Datum} (h : v ∈ values)
    (seen : List String) : v.key ∈ seen ∨ ∃ w ∈ distinctFrom seen values, w.key = v.key := by
  induction values generalizing seen with
  | nil => cases h
  | cons w rest ih =>
    rw [distinctFrom]
    rcases List.mem_cons.mp h with rfl | hrest
    · split
      · exact .inl ‹_›
      · exact .inr ⟨v, List.mem_cons_self, rfl⟩
    · split
      · exact ih hrest seen
      · rcases ih hrest (w.key :: seen) with hseen | ⟨u, hu, hkey⟩
        · rcases List.mem_cons.mp hseen with hw | hseen
          · exact .inr ⟨w, List.mem_cons_self, hw.symm⟩
          · exact .inl hseen
        · exact .inr ⟨u, List.mem_cons_of_mem w hu, hkey⟩

theorem exists_key_mem_distinct {values : List Datum} {v : Datum} (h : v ∈ values) :
    ∃ w ∈ distinct values, w.key = v.key := by
  rcases exists_key_of_mem h [] with hseen | hkept
  · cases hseen
  · exact hkept

/-- What only depends on the key holds of one of the distinct values where it holds of any. -/
theorem exists_mem_distinct {P : Datum → Prop} (hP : ∀ v w : Datum, v.key = w.key → P v → P w)
    {values : List Datum} : (∃ v ∈ distinct values, P v) ↔ ∃ v ∈ values, P v := by
  constructor
  · rintro ⟨v, hv, hp⟩
    exact ⟨v, mem_of_mem_distinctFrom hv, hp⟩
  · rintro ⟨v, hv, hp⟩
    obtain ⟨w, hw, hkey⟩ := exists_key_mem_distinct hv
    exact ⟨w, hw, hP v w hkey.symm hp⟩

/-- The values that are kept have different keys, none of them seen before. -/
theorem nodup_distinctFrom (seen : List String) (values : List Datum) :
    ((distinctFrom seen values).map Datum.key).Nodup ∧
      ∀ v ∈ distinctFrom seen values, v.key ∉ seen := by
  induction values generalizing seen with
  | nil => simp [distinctFrom]
  | cons w rest ih =>
    rw [distinctFrom]
    split
    · exact ih seen
    · rename_i hnew
      obtain ⟨hnodup, hfresh⟩ := ih (w.key :: seen)
      refine ⟨?_, fun v hv => ?_⟩
      · rw [List.map_cons, List.nodup_cons]
        refine ⟨fun hw => ?_, hnodup⟩
        obtain ⟨v, hv, hkey⟩ := List.mem_map.mp hw
        exact hfresh v hv (hkey ▸ List.mem_cons_self)
      · rcases List.mem_cons.mp hv with rfl | hrest
        · exact hnew
        · exact fun hseen => hfresh v hrest (List.mem_cons_of_mem _ hseen)

theorem nodup_distinct (values : List Datum) : ((distinct values).map Datum.key).Nodup :=
  (nodup_distinctFrom [] values).1

theorem exists_mem_mergeDistinct {lists : List (List Datum)} {values : List Datum}
    (hvalues : values ∈ lists) {v : Datum} (hv : v ∈ values) :
    ∃ w ∈ mergeDistinct lists, w.key = v.key :=
  exists_key_mem_distinct (List.mem_flatten_of_mem hvalues hv)

/-! ## What was seen before -/

theorem distinct_cons_eq_distinctFrom (v : Datum) (rest : List Datum) :
    distinct (v :: rest) = v :: distinctFrom [v.key] rest := by
  simp [distinct, distinctFrom]

theorem distinctFrom_eq_filter (seen : List String) (values : List Datum) :
    distinctFrom seen values = (distinct values).filter (·.key ∉ seen) := by
  induction values generalizing seen with
  | nil => rfl
  | cons v rest ih =>
    rw [distinct_cons_eq_distinctFrom, distinctFrom, ih [v.key]]
    by_cases hseen : v.key ∈ seen
    · -- values with the key of `v` are left out as seen, whether or not `v` leaves them out
      rw [if_pos hseen, ih seen, List.filter_cons_of_neg (by simpa using hseen), List.filter_filter]
      refine List.filter_congr fun w _ => ?_
      by_cases hw : w.key ∈ seen
      · simp [hw]
      · have hne : w.key ≠ v.key := fun h => hw (h ▸ hseen)
        simp [hw, hne]
    · rw [if_neg hseen, ih (v.key :: seen), List.filter_cons_of_pos (by simpa using hseen),
        List.filter_filter]
      refine congrArg (v :: ·) (List.filter_congr fun w _ => ?_)
      simp [Bool.and_comm]

theorem distinct_cons (v : Datum) (rest : List Datum) :
    distinct (v :: rest) = v :: (distinct rest).filter (·.key ≠ v.key) := by
  rw [distinct_cons_eq_distinctFrom, distinctFrom_eq_filter]
  simp

/-- Of a second list those values are kept whose key is not in the first. -/
theorem distinct_append (a b : List Datum) :
    distinct (a ++ b) = distinct a ++ (distinct b).filter (·.key ∉ a.map Datum.key) := by
  induction a with
  | nil => exact (List.filter_eq_self.mpr fun w _ => by simp).symm
  | cons v rest ih =>
    rw [List.cons_append, distinct_cons, distinct_cons, ih, List.filter_append, List.filter_filter,
      List.cons_append]
    refine congrArg (fun kept => v :: (_ ++ kept)) (List.filter_congr fun w _ => ?_)
    simp

/-! ## First places -/

/-- No value before a place has the kind and the text of the value there. -/
def IsFirst (values : List Datum) (i : Fin values.length) : Prop :=
  ∀ j < i, values[j].kindAndText ≠ values[i].kindAndText

instance (values : List Datum) : DecidablePred (IsFirst values) := fun i =>
  inferInstanceAs (Decidable (∀ j < i, values[j].kindAndText ≠ values[i].kindAndText))

/-- The first places of a list, in order. -/
def firstPlaces (values : List Datum) : List (Fin values.length) :=
  (List.finRange values.length).filter (IsFirst values)

theorem isFirst_zero (v : Datum) (rest : List Datum) :
    IsFirst (v :: rest) (0 : Fin (rest.length + 1)) :=
  fun j hj => absurd hj (Fin.not_lt_zero j)

theorem isFirst_succ {v : Datum} {rest : List Datum} {i : Fin rest.length} :
    IsFirst (v :: rest) i.succ ↔ rest[i].key ≠ v.key ∧ IsFirst rest i := by
  constructor
  · intro h
    refine ⟨fun hkey => ?_, fun j hj => ?_⟩
    · exact h 0 (Fin.succ_pos i) (Datum.kindAndText_eq_iff.mpr hkey.symm)
    · exact h j.succ (Fin.succ_lt_succ_iff.mpr hj)
  · rintro ⟨hkey, hrest⟩ j hj
    induction j using Fin.cases with
    | zero => exact fun heq => hkey (Datum.kindAndText_eq_iff.mp heq).symm
    | succ j => exact hrest j (Fin.succ_lt_succ_iff.mp hj)

theorem firstPlaces_cons (v : Datum) (rest : List Datum) :
    firstPlaces (v :: rest) =
      0 :: ((firstPlaces rest).filter fun i => rest[i].key ≠ v.key).map Fin.succ := by
  have hplaces : List.finRange (v :: rest).length = 0 :: (List.finRange rest.length).map Fin.succ :=
    List.finRange_succ
  rw [firstPlaces, hplaces, List.filter_cons, if_pos (decide_eq_true (isFirst_zero v rest)),
    List.filter_map, firstPlaces, List.filter_filter]
  refine congrArg (fun places => 0 :: places.map Fin.succ) (List.filter_congr fun i _ => ?_)
  simp only [Function.comp_apply, isFirst_succ, Bool.decide_and]

theorem distinct_eq_map_firstPlaces (values : List Datum) :
    distinct values = (firstPlaces values).map values.get := by
  induction values with
  | nil => rfl
  | cons v rest ih =>
    rw [distinct_cons, firstPlaces_cons, ih, List.filter_map, List.map_cons, List.map_map]
    rfl

/-- What the distinct values of a list are: those at its first places, no two of one kind and text,
and exactly one for the kind and text of each value. -/
structure FirstOfEach (values kept : List Datum) : Prop where
  firsts : kept = (firstPlaces values).map values.get
  once : kept.Pairwise fun v w => v.kindAndText ≠ w.kindAndText
  covers : ∀ v ∈ values, ∃! w, w ∈ kept ∧ w.kindAndText = v.kindAndText

theorem firstOfEach_distinct (values : List Datum) : FirstOfEach values (distinct values) := by
  have hnodup := nodup_distinct values
  refine ⟨distinct_eq_map_firstPlaces values, ?_, ?_⟩
  · refine (List.pairwise_map.mp hnodup).imp fun hne heq => ?_
    exact hne (Datum.kindAndText_eq_iff.mp heq)
  · intro v hv
    obtain ⟨w, hw, hkey⟩ := exists_key_mem_distinct hv
    refine ⟨w, ⟨hw, Datum.kindAndText_eq_iff.mpr hkey⟩, ?_⟩
    rintro u ⟨hu, heq⟩
    have hsame : u.key = w.key := (Datum.kindAndText_eq_iff.mp heq).trans hkey.symm
    exact List.inj_on_of_nodup_map hnodup hu hw hsame

/-! ## Merging again -/

theorem distinct_of_nodup {values : List Datum} (h : (values.map Datum.key).Nodup) :
    distinct values = values := by
  induction values with
  | nil => rfl
  | cons v rest ih =>
    rw [List.map_cons, List.nodup_cons] at h
    rw [distinct_cons, ih h.2, List.filter_eq_self.mpr]
    intro w hw
    have hne : w.key ≠ v.key := fun heq => h.1 (heq ▸ List.mem_map_of_mem hw)
    simpa using hne

theorem mem_map_key_distinct {key : String} {values : List Datum} :
    key ∈ (distinct values).map Datum.key ↔ key ∈ values.map Datum.key := by
  rw [List.mem_map, List.mem_map]
  exact exists_mem_distinct (P := fun v => v.key = key) fun v w hkey hv => hkey.symm.trans hv

theorem distinct_distinct_append (a b : List Datum) :
    distinct (distinct a ++ b) = distinct (a ++ b) := by
  rw [distinct_append, distinct_append, distinct_of_nodup (nodup_distinct a)]
  simp only [mem_map_key_distinct]

theorem distinct_append_distinct (a b : List Datum) :
    distinct (a ++ distinct b) = distinct (a ++ b) := by
  rw [distinct_append, distinct_append, distinct_of_nodup (nodup_distinct b)]

/-- Values whose kinds and texts were met before add nothing. -/
theorem distinct_append_of_forall_mem {a b : List Datum} (h : ∀ w ∈ b, w.key ∈ a.map Datum.key) :
    distinct (a ++ b) = distinct a := by
  rw [distinct_append, List.filter_eq_nil_iff.mpr, List.append_nil]
  intro w hw
  simpa using h w (mem_of_mem_distinctFrom hw)

/-- A second merge meets only what the first one has met. -/
theorem mergeDistinct_mergeDistinct (a b c : List Datum) :
    mergeDistinct [a, mergeDistinct [a, b, c], c] = mergeDistinct [a, b, c] := by
  have hlists (b : List Datum) : mergeDistinct [a, b, c] = distinct (a ++ (b ++ c)) := by
    simp [mergeDistinct]
  have ha : ∀ w ∈ a, w.key ∈ a.map Datum.key := fun w hw => List.mem_map_of_mem hw
  have hc : ∀ w ∈ c, w.key ∈ (a ++ (b ++ c)).map Datum.key := fun w hw =>
    List.mem_map_of_mem (List.mem_append_right a (List.mem_append_right b hw))
  rw [hlists, hlists]
  calc distinct (a ++ (distinct (a ++ (b ++ c)) ++ c))
      = distinct (a ++ distinct (a ++ (b ++ c) ++ c)) := by
        rw [← distinct_append_distinct, distinct_distinct_append]
    _ = distinct (a ++ distinct (a ++ (b ++ c))) := by rw [distinct_append_of_forall_mem hc]
    _ = distinct (a ++ a ++ (b ++ c)) := by rw [distinct_append_distinct, List.append_assoc]
    _ = distinct (a ++ (b ++ c)) := by
        rw [← distinct_distinct_append, distinct_append_of_forall_mem ha, distinct_distinct_append]

/-- Lists merged one after the other are merged at once. -/
theorem foldl_mergeDistinct (merged : List Datum) (lists : List (List Datum)) :
    lists.foldl (fun merged list => mergeDistinct [merged, list]) (distinct merged) =
      mergeDistinct (merged :: lists) := by
  induction lists generalizing merged with
  | nil => simp [mergeDistinct]
  | cons list rest ih =>
    have hstep : mergeDistinct [distinct merged, list] = distinct (merged ++ list) := by
      simp [mergeDistinct, distinct_distinct_append]
    rw [List.foldl_cons, hstep, ih]
    simp [mergeDistinct]

end ChartBoard
