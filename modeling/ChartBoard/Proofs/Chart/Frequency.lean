import ChartBoard.Chart.FromRows
import ChartBoard.Proofs.Datum.Selection
import ChartBoard.Proofs.Result
import Mathlib.Data.Finset.Card
import Mathlib.Algebra.BigOperators.Group.List.Lemmas
import Mathlib.Algebra.GroupWithZero.Nat

/-!
# The most frequent names

Rows without any number are drawn as a chart that counts how often each name in their first column
occurs.

* `countsOf_eq` says that the counting loop lists the distinct names with their numbers.
* `Outranks` is the order of the bars: the more frequent name first, and of two equally frequent
  ones the name that was seen first.
* `MostFrequent` says what the bars are, and `mostFrequent_spec` that a ranking of names has them.
* `chartOfRows_counts` is the result for rows.
-/

namespace ChartBoard.Chart

/-! ## Counting -/

theorem map_count_of_not_mem {keys : List String} {name : String} (h : name ∉ keys)
    (count : String → Nat) :
    keys.map (fun key => (key, count key + if name = key then 1 else 0)) =
      keys.map fun key => (key, count key) := by
  refine List.map_congr_left fun key hkey => ?_
  have hne : name ≠ key := fun heq => h (heq ▸ hkey)
  simp [hne]

theorem countOne_of_mem {keys : List String} (hnodup : keys.Nodup) {count : String → Nat}
    {name : String} (h : name ∈ keys) :
    countOne (keys.map fun key => (key, count key)) name =
      keys.map fun key => (key, count key + if name = key then 1 else 0) := by
  induction keys with
  | nil => cases h
  | cons key keys ih =>
    obtain ⟨hkey, hrest⟩ := List.nodup_cons.mp hnodup
    rw [List.map_cons, countOne, List.map_cons]
    by_cases hname : key = name
    · subst hname
      simp [map_count_of_not_mem hkey]
    · have hmem : name ∈ keys := (List.mem_cons.mp h).resolve_left (Ne.symm hname)
      simp [hname, Ne.symm hname, ih hrest hmem]

theorem countOne_of_not_mem {counts : List (String × Nat)} {name : String}
    (h : name ∉ counts.map (·.1)) : countOne counts name = counts ++ [(name, 1)] := by
  induction counts with
  | nil => rfl
  | cons entry counts ih =>
    obtain ⟨key, n⟩ := entry
    rw [List.map_cons, List.mem_cons, not_or] at h
    rw [countOne, if_neg (Ne.symm h.1), ih h.2, List.cons_append]

/-- The counts are those of the distinct names, in the order in which they are first seen. -/
theorem countsOf_eq (names : List String) :
    countsOf names = (distinctTexts names).map fun key => (key, names.count key) := by
  induction names using List.reverseRecOn with
  | nil => rfl
  | append_singleton names name ih =>
    have hstep : countsOf (names ++ [name]) = countOne (countsOf names) name := by
      rw [countsOf, List.foldl_append]
      rfl
    have hcount (key : String) : (names ++ [name]).count key =
        names.count key + if name = key then 1 else 0 := by
      rw [List.count_append, List.count_singleton]
      simp
    rw [hstep, ih, distinctTexts_concat]
    simp only [hcount]
    split
    · rename_i hseen
      exact countOne_of_mem (nodup_distinctTexts names) (mem_distinctTexts.mpr hseen)
    · rename_i hnew
      have hkeys : name ∉ distinctTexts names := fun h => hnew (mem_distinctTexts.mp h)
      have hcounts : name ∉
          ((distinctTexts names).map fun key => (key, names.count key)).map (·.1) := by
        simpa using hkeys
      rw [countOne_of_not_mem hcounts, List.map_append, map_count_of_not_mem hkeys]
      simp [List.count_eq_zero.mpr hnew]

theorem countsOf_ne_nil {names : List String} (h : names ≠ []) : countsOf names ≠ [] := by
  obtain ⟨name, hname⟩ := List.exists_mem_of_ne_nil names h
  rw [countsOf_eq, ne_eq, List.map_eq_nil_iff]
  exact List.ne_nil_of_mem (mem_distinctTexts.mpr hname)

/-! ## Ranking -/

/-- True when one name is ranked before another: it occurs more often, or as often and first. -/
def Outranks (names : List String) (s t : String) : Prop :=
  names.count t < names.count s ∨
    names.count s = names.count t ∧ names.idxOf s < names.idxOf t

/-- What the bars of some names are: the `n` names that outrank the others, in their order, each
once and with the number of its occurrences. -/
structure MostFrequent (names : List String) (n : Nat) (top : List (String × Nat)) : Prop where
  length : top.length = min n names.toFinset.card
  distinct : (top.map (·.1)).Nodup
  counted : ∀ p ∈ top, p.1 ∈ names ∧ p.2 = names.count p.1
  ranked : (top.map (·.1)).Pairwise (Outranks names)
  best : ∀ s ∈ top.map (·.1), ∀ t ∈ names, t ∉ top.map (·.1) → Outranks names s t
  total : names.toFinset.card ≤ n → (top.map (·.2)).sum = names.length

section

variable {names : List String}

/-- All names with their counts in the order of the bars. -/
def ranking (names : List String) : List (String × Nat) :=
  (countsOf names).mergeSort fun a b => b.2 ≤ a.2

theorem ranking_perm (names : List String) :
    (ranking names).Perm ((distinctTexts names).map fun key => (key, names.count key)) := by
  rw [← countsOf_eq]
  exact List.mergeSort_perm _ _

theorem map_fst_ranking_perm (names : List String) :
    ((ranking names).map (·.1)).Perm (distinctTexts names) := by
  refine ((ranking_perm names).map _).trans (List.Perm.of_eq ?_)
  simp [Function.comp_def]

theorem count_of_mem_ranking {p : String × Nat} (h : p ∈ ranking names) :
    p.1 ∈ names ∧ p.2 = names.count p.1 := by
  obtain ⟨key, hkey, rfl⟩ := List.mem_map.mp ((ranking_perm names).mem_iff.mp h)
  exact ⟨mem_distinctTexts.mp hkey, rfl⟩

theorem length_distinctTexts (names : List String) :
    (distinctTexts names).length = names.toFinset.card := by
  have hmem : (distinctTexts names).toFinset = names.toFinset := by
    ext s
    simp [mem_distinctTexts]
  rw [← hmem, List.toFinset_card_of_nodup (nodup_distinctTexts names)]

theorem descending_trans (a b c : String × Nat) (hab : decide (b.2 ≤ a.2) = true)
    (hbc : decide (c.2 ≤ b.2) = true) : decide (c.2 ≤ a.2) = true :=
  decide_eq_true (Nat.le_trans (of_decide_eq_true hbc) (of_decide_eq_true hab))

theorem descending_total (a b : String × Nat) :
    (decide (b.2 ≤ a.2) || decide (a.2 ≤ b.2)) = true := by
  simpa using Nat.le_total b.2 a.2

theorem sum_counts (names : List String) :
    ((distinctTexts names).map fun key => names.count key).sum = names.length := by
  have hdistinct : (distinctTexts names).Perm names.dedup :=
    (List.perm_ext_iff_of_nodup (nodup_distinctTexts names) names.nodup_dedup).mpr fun s => by
      rw [mem_distinctTexts, List.mem_dedup]
  rw [(hdistinct.map _).sum_eq, List.sum_map_count_dedup_eq_length]

/-- Sorting leaves the names of one count in their order. -/
theorem filter_ranking (names : List String) (n : Nat) :
    (ranking names).filter (fun p => p.2 = n) = (countsOf names).filter fun p => p.2 = n := by
  have hequal : ((countsOf names).filter fun p => p.2 = n).Pairwise fun a b =>
      decide (b.2 ≤ a.2) = true := by
    refine List.pairwise_filter.mpr (List.pairwise_of_forall fun a b ha hb => ?_)
    simp only [decide_eq_true_eq] at ha hb ⊢
    omega
  have hkept := List.sublist_mergeSort descending_trans descending_total hequal List.filter_sublist
  have hfiltered := hkept.filter fun p => p.2 = n
  rw [List.filter_filter] at hfiltered
  simp only [Bool.and_self] at hfiltered
  exact (hfiltered.eq_of_length
    ((List.mergeSort_perm (countsOf names) _).symm.filter _).length_eq).symm

theorem pairwise_outranks (names : List String) :
    (ranking names).Pairwise fun p q => Outranks names p.1 q.1 := by
  refine List.pairwise_iff_forall_sublist.mpr fun {p q} hpair => ?_
  have hp := count_of_mem_ranking (hpair.subset List.mem_cons_self)
  have hq := count_of_mem_ranking (hpair.subset (List.mem_cons_of_mem p List.mem_cons_self))
  have hsorted := List.pairwise_mergeSort descending_trans descending_total (countsOf names)
  have hle : q.2 ≤ p.2 := of_decide_eq_true
    (List.pairwise_iff_forall_sublist.mp hsorted hpair)
  rcases Nat.lt_or_eq_of_le hle with hlt | heq
  · exact .inl (by rw [← hp.2, ← hq.2]; exact hlt)
  · -- equal counts stand in the order in which they were counted
    have hseen : [p, q].Sublist (countsOf names) := by
      have hfiltered := hpair.filter fun r => r.2 = p.2
      rw [filter_ranking] at hfiltered
      simp only [List.filter_cons, heq, decide_true, if_true, List.filter_nil] at hfiltered
      exact hfiltered.trans List.filter_sublist
    have horder := (pairwise_idxOf_distinctTexts names).map
      (fun key => (key, names.count key)) (S := fun p q => names.idxOf p.1 < names.idxOf q.1)
      fun _ _ h => h
    rw [← countsOf_eq] at horder
    exact .inr ⟨by rw [← hp.2, ← hq.2, heq], List.pairwise_iff_forall_sublist.mp horder hseen⟩

/-- The ranking down to a rank has the most frequent names. -/
theorem mostFrequent_spec {rank : Int} (hrank : 0 ≤ rank) (names : List String) :
    MostFrequent names rank.toNat (mostFrequent rank names) := by
  have htop : mostFrequent rank names = (ranking names).take rank.toNat := by
    rw [mostFrequent, Text.capped, if_neg (by omega), ranking]
  have hlength : (ranking names).length = names.toFinset.card := by
    rw [(ranking_perm names).length_eq, List.length_map, length_distinctTexts]
  have hnodup : ((ranking names).map (·.1)).Nodup :=
    (map_fst_ranking_perm names).nodup_iff.mpr (nodup_distinctTexts names)
  have hranked : ((ranking names).map (·.1)).Pairwise (Outranks names) :=
    List.pairwise_map.mpr (pairwise_outranks names)
  rw [htop]
  have hsplit : (ranking names).map (·.1) =
      ((ranking names).take rank.toNat).map (·.1) ++
        ((ranking names).drop rank.toNat).map (·.1) := by
    rw [← List.map_append, List.take_append_drop]
  rw [hsplit] at hnodup hranked
  obtain ⟨hranked, -, hbest⟩ := List.pairwise_append.mp hranked
  constructor
  · rw [List.length_take, hlength]
  · exact (List.nodup_append.mp hnodup).1
  · exact fun p hp => count_of_mem_ranking (List.mem_of_mem_take hp)
  · exact hranked
  · intro s hs t ht hother
    have hmem : t ∈ (ranking names).map (·.1) :=
      (map_fst_ranking_perm names).mem_iff.mpr (mem_distinctTexts.mpr ht)
    rw [hsplit] at hmem
    exact hbest s hs t ((List.mem_append.mp hmem).resolve_left hother)
  · intro hall
    rw [List.take_of_length_le (hlength.trans_le hall),
      ((ranking_perm names).map (·.2)).sum_eq, List.map_map]
    exact sum_counts names

end

/-! ## Rows -/

section

variable {rows : List Record}

theorem hasNumber_eq_false {name : String}
    (h : ∀ row ∈ rows, (Record.get row name).number? = .ok none) :
    hasNumber name (rows.map .object) = .ok false := by
  induction rows with
  | nil => rfl
  | cons row rows ih =>
    have hcell : cell name (.object row) = .ok (Record.get row name) := rfl
    have hrest := ih fun row' hrow' => h row' (List.mem_cons_of_mem row hrow')
    rw [List.map_cons, hasNumber, hcell]
    simp only [bind, Except.bind, h row List.mem_cons_self, Option.isSome_none, Bool.false_eq_true,
      if_false, hrest]

/-- True of rows with no number in a column of the first of them. -/
def NoNumbers (first : Record) (rows : List Record) : Prop :=
  ∀ row ∈ first :: rows, ∀ name ∈ Record.names first, (Record.get row name).number? = .ok none

theorem numericColumns_eq_nil {first : Record} (h : NoNumbers first rows) :
    numericColumns ((first :: rows).map .object) none = .ok [] := by
  refine Result.filterM_eq_nil fun name hname => hasNumber_eq_false fun row hrow => ?_
  exact h row hrow name (List.mem_of_mem_filter hname)

/-- The names that rows are counted by: the texts of a column, with null and missing values under
one name of their own. -/
def rowNames (x : String) (rows : List Record) : List String :=
  rows.map fun row => countedName (Record.get row x)

/-- The chart of names with their counts. -/
def chartOfCounts (title : Datum) (x : String) (counts : List (String × Nat)) : Record :=
  barChart (.text (title.display ++ " (count)")) (counts.map (·.1)) x "Count"
    (counts.map fun p => .int p.2)

theorem chartOfColumns_of_noNumbers {first : Record} (h : NoNumbers first rows)
    (settings : Settings) (title : Datum) (x : String) :
    chartOfColumns settings title x ((first :: rows).map .object) =
      .ok (chartOfCounts title x
        (mostFrequent settings.fallbackTop (rowNames x (first :: rows)))) := by
  have hnames : ((first :: rows).map Datum.object).mapM
      (fun row => do return countedName (← cell x row) : Datum → Except Fault String) =
        .ok (rowNames x (first :: rows)) := by
    rw [List.mapM_map]
    exact Result.mapM_eq_map fun row _ => rfl
  simp only [bind, Except.bind] at hnames
  simp only [chartOfColumns, numericColumns_eq_nil h, bind, Except.bind, hnames]
  rfl

/-- Rows without numbers, of which the first has a column, are drawn as the counts of their most
frequent names in it. -/
theorem chartOfRows_counts {settings : Settings} {title : Datum} {x : String} {v : Datum}
    {cells : Record} (htop : 0 ≤ settings.fallbackTop) (h : NoNumbers ((x, v) :: cells) rows) :
    ∃ top, chartOfRows settings title (.list ((((x, v) :: cells) :: rows).map .object)) =
        .ok (some (chartOfCounts title x top)) ∧
      MostFrequent (rowNames x (((x, v) :: cells) :: rows)) settings.fallbackTop.toNat top := by
  refine ⟨_, ?_, mostFrequent_spec htop _⟩
  have hrows : chartOfRows settings title (.list ((((x, v) :: cells) :: rows).map .object)) =
      (chartOfColumns settings title x ((((x, v) :: cells) :: rows).map .object)).map some := rfl
  rw [hrows, chartOfColumns_of_noNumbers h]
  rfl

end

/-- A row of one city. -/
def cityRow (city : Datum) : Record := [("city", city)]

/-- Rows in which a null, a missing city and a text have one name. -/
def cityRows : List Record :=
  [cityRow .null, cityRow (.text "Milan"), cityRow (.text "Rome"), cityRow (.text "No value"),
    [("town", .text "Rome")], cityRow (.text "Oslo")]

theorem noNumbers_cityRows : NoNumbers (cityRow (.text "Rome")) cityRows := by
  have htext (s : String) (h : (finiteOfText? s).isNone = true) :
      (Record.get (cityRow (.text s)) "city").number? = .ok none :=
    congrArg Except.ok (Option.isNone_iff_eq_none.mp h)
  intro row hrow name hname
  obtain rfl := List.mem_singleton.mp hname
  simp only [cityRows, List.mem_cons, List.not_mem_nil, or_false] at hrow
  rcases hrow with rfl | rfl | rfl | rfl | rfl | rfl | rfl
  · exact htext "Rome" (by decide +kernel)
  · rfl
  · exact htext "Milan" (by decide +kernel)
  · exact htext "Rome" (by decide +kernel)
  · exact htext "No value" (by decide +kernel)
  · rfl
  · exact htext "Oslo" (by decide +kernel)

/-- The names without a value are the most frequent, Milan and Oslo do not reach the chart. -/
theorem chartOfRows_counts_cities :
    (0 : Int) ≤ 2 ∧ NoNumbers (cityRow (.text "Rome")) cityRows ∧
      ∃ top, chartOfRows { fallbackTop := 2 } generatedTitle
          (.list ((cityRow (.text "Rome") :: cityRows).map .object)) =
            .ok (some (chartOfCounts generatedTitle "city" top)) ∧
        MostFrequent ["Rome", "No value", "Milan", "Rome", "No value", "No value", "Oslo"] 2 top :=
  ⟨by decide, noNumbers_cityRows, chartOfRows_counts (by decide) noNumbers_cityRows⟩

end ChartBoard.Chart
