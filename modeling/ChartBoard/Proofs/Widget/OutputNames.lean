import ChartBoard.Widget.Alias
import Mathlib.Data.Finset.Card
import Mathlib.Data.Finset.Lattice.Basic
import Mathlib.Data.List.Nodup
import Mathlib.Data.Nat.Find

/-!
# Distinct output names

Outputs get names of their own, however often a name is asked for and whatever names look like.  A
search for a name tries one candidate after the other and knows no bound; what ends it is that the
candidates differ from each other and that the set of taken names is finite.

* `exists_first_free` says that one of the candidates is free, `freshName_eq` that it is found.
* `freshNames_nodup` and `length_freshNames` say that a list of names gets as many distinct ones.
* `Search` and `Naming` are the runs of one search and of searches that share a set of taken names;
  `search_iff` says how a search ends, `naming_iff` what searches in turn come to.
* `names_in_turn` puts this together.
-/

namespace ChartBoard.Widget

theorem numberedName_injective (name : String) : (numberedName name).Injective := by
  have hlonger (n : Nat) : name ++ " (" ++ toString (n + 1) ++ ")" ≠ name := by
    intro h
    have hlength := congrArg (fun s => s.toList.length) h
    simp only [String.toList_append, List.length_append] at hlength
    have hparen : " (".toList.length = 2 := by decide
    omega
  intro m n h
  unfold numberedName at h
  split at h
  · rename_i hm
    split at h
    · rename_i hn
      omega
    · exact absurd h.symm (hlonger n)
  · split at h
    · exact absurd h (hlonger m)
    · have hdigits : Nat.toDigits 10 (m + 1) = Nat.toDigits 10 (n + 1) := by
        have htexts := congrArg String.toList h
        simpa using htexts
      have hvalue := congrArg (Nat.ofDigitChars 10 · 0) hdigits
      simp only [Nat.ofDigitChars_ten_toDigits] at hvalue
      omega

theorem le_card_of_forall_mem {taken : Finset String} {name : String} {n : Nat}
    (h : ∀ m < n, numberedName name m ∈ taken) : n ≤ taken.card := by
  have hcard := Finset.card_le_card_of_injOn (s := Finset.range n) (t := taken) (numberedName name)
    (fun m hm => h m (Finset.mem_range.mp hm)) ((numberedName_injective name).injOn)
  simpa using hcard

/-- One of the candidates is free, as no finite set holds all of them. -/
theorem exists_first_free (taken : Finset String) (name : String) :
    ∃ n, numberedName name n ∉ taken ∧ ∀ m < n, numberedName name m ∈ taken := by
  have hfree : ∃ n, numberedName name n ∉ taken := by
    by_contra hall
    push Not at hall
    -- one candidate more than there are taken names
    have hbound := le_card_of_forall_mem (n := taken.card + 1) fun m _ => hall m
    omega
  refine ⟨Nat.find hfree, Nat.find_spec hfree, fun m hm => ?_⟩
  exact not_not.mp (Nat.find_min hfree hm)

theorem freshName_eq {taken : List String} {name : String} {n : Nat}
    (hfree : numberedName name n ∉ taken) (hbefore : ∀ m < n, numberedName name m ∈ taken) :
    freshName taken name = numberedName name n := by
  have hbound : n ≤ taken.length := by
    have hcard : n ≤ taken.toFinset.card := le_card_of_forall_mem fun m hm =>
      List.mem_toFinset.mpr (hbefore m hm)
    exact hcard.trans (List.toFinset_card_le taken)
  have hfind : (List.range (taken.length + 1)).find? ((· ∉ taken) ∘ numberedName name) = some n := by
    rw [List.find?_range_eq_some]
    refine ⟨by simpa using hfree, by simpa using Nat.lt_succ_of_le hbound, fun m hm => ?_⟩
    simpa using hbefore m hm
  rw [freshName, List.find?_map, hfind]
  rfl

theorem freshName_not_mem (taken : List String) (name : String) :
    freshName taken name ∉ taken := by
  obtain ⟨n, hfree, hbefore⟩ := exists_first_free taken.toFinset name
  simp only [List.mem_toFinset] at hfree hbefore
  exact freshName_eq hfree hbefore ▸ hfree

theorem freshName_of_not_mem {taken : List String} {name : String} (h : name ∉ taken) :
    freshName taken name = name := by
  simp [freshName, List.range_succ_eq_map, numberedName, h]

theorem length_freshNamesAfter (taken names : List String) :
    (freshNamesAfter taken names).length = names.length := by
  induction names generalizing taken with
  | nil => rfl
  | cons name rest ih => simp [freshNamesAfter, ih]

/-- The names found are different, and none of them was taken. -/
theorem freshNamesAfter_fresh (taken names : List String) :
    (freshNamesAfter taken names).Nodup ∧ ∀ found ∈ freshNamesAfter taken names, found ∉ taken := by
  induction names generalizing taken with
  | nil => exact ⟨List.nodup_nil, nofun⟩
  | cons name rest ih =>
    obtain ⟨hnodup, hfree⟩ := ih (taken ++ [freshName taken name])
    rw [freshNamesAfter]
    refine ⟨List.nodup_cons.mpr ⟨fun hmem => ?_, hnodup⟩, fun found hfound => ?_⟩
    · exact hfree _ hmem (List.mem_append_right _ List.mem_cons_self)
    · rcases List.mem_cons.mp hfound with rfl | hrest
      · exact freshName_not_mem taken name
      · exact fun htaken => hfree found hrest (List.mem_append_left _ htaken)

theorem length_freshNames (names : List String) : (freshNames names).length = names.length :=
  length_freshNamesAfter [] names

theorem freshNames_nodup (names : List String) : (freshNames names).Nodup :=
  (freshNamesAfter_fresh [] names).1

theorem mem_append_freshNamesAfter {taken names : List String} {name : String} (h : name ∈ names) :
    name ∈ taken ++ freshNamesAfter taken names := by
  induction names generalizing taken with
  | nil => cases h
  | cons head rest ih =>
    rw [freshNamesAfter, List.append_cons]
    rcases List.mem_cons.mp h with rfl | hrest
    · by_cases htaken : name ∈ taken
      · exact List.mem_append_left _ (List.mem_append_left _ htaken)
      · rw [freshName_of_not_mem htaken]
        exact List.mem_append_left _ (List.mem_append_right _ List.mem_cons_self)
    · exact ih hrest

theorem take_freshNamesAfter (taken names : List String) (i : Nat) :
    (freshNamesAfter taken names).take i = freshNamesAfter taken (names.take i) := by
  induction names generalizing taken i with
  | nil => simp [freshNamesAfter]
  | cons name rest ih =>
    cases i with
    | zero => rfl
    | succ i => rw [freshNamesAfter, List.take_succ_cons, List.take_succ_cons, freshNamesAfter, ih]

theorem getElem?_freshNamesAfter (taken names : List String) (i : Nat) :
    (freshNamesAfter taken names)[i]? =
      names[i]?.map (freshName (taken ++ (freshNamesAfter taken names).take i)) := by
  induction names generalizing taken i with
  | nil => rfl
  | cons name rest ih =>
    cases i with
    | zero => simp [freshNamesAfter]
    | succ i => simp [freshNamesAfter, ih]

/-- A name is kept exactly where it is asked for first and was not found for another before. -/
theorem getElem?_freshNamesAfter_eq_iff {taken names : List String} {i : Nat} {name : String}
    (h : names[i]? = some name) :
    (freshNamesAfter taken names)[i]? = some name ↔
      name ∉ taken ++ names.take i ++ (freshNamesAfter taken names).take i := by
  have hasked (hname : name ∈ names.take i) :
      name ∈ taken ++ (freshNamesAfter taken names).take i :=
    take_freshNamesAfter taken names i ▸ mem_append_freshNamesAfter hname
  rw [getElem?_freshNamesAfter, h, Option.map_some, Option.some.injEq]
  constructor
  · intro hkept
    have hfree := freshName_not_mem (taken ++ (freshNamesAfter taken names).take i) name
    rw [hkept] at hfree
    simp only [List.mem_append] at hfree hasked ⊢
    tauto
  · intro hfree
    refine freshName_of_not_mem fun hmem => hfree ?_
    simp only [List.mem_append] at hmem ⊢
    tauto

/-! ## Runs of the search -/

/-- A run of the search that is about to try `candidate` and to give the next one `number`: it meets
`rounds` taken names before it ends with `found`. -/
inductive Search (taken : Finset String) (name : String) : String → Nat → Nat → String → Prop
  | free {candidate : String} {number : Nat} (hfree : candidate ∉ taken) :
      Search taken name candidate number 0 candidate
  | again {candidate found : String} {number rounds : Nat} (htaken : candidate ∈ taken)
      (rest : Search taken name s!"{name} ({number})" (number + 1) rounds found) :
      Search taken name candidate number (rounds + 1) found

/-- From its `k`-th candidate on a search ends with the first one that is free. -/
theorem search_iff {taken : Finset String} {name found : String} {k rounds : Nat} :
    Search taken name (numberedName name k) (k + 2) rounds found ↔
      found = numberedName name (k + rounds) ∧ found ∉ taken ∧
        ∀ m < rounds, numberedName name (k + m) ∈ taken := by
  -- one round fewer is left from the next candidate on, so that `k` has to be general
  induction rounds generalizing k with
  | zero =>
    constructor
    · intro h
      cases h with
      | free hfree => exact ⟨rfl, hfree, fun m hm => absurd hm (Nat.not_lt_zero m)⟩
    · rintro ⟨rfl, hfree, -⟩
      exact .free hfree
  | succ rounds ih =>
    have hshift (m : Nat) : k + 1 + m = k + (m + 1) := by omega
    constructor
    · intro h
      cases h with
      | again htaken rest =>
        -- what is tried next is the candidate after the `k`-th
        have hnext : Search taken name (numberedName name (k + 1)) (k + 1 + 2) rounds found := rest
        obtain ⟨rfl, hfree, hbefore⟩ := ih.mp hnext
        refine ⟨by rw [hshift], hfree, fun m hm => ?_⟩
        cases m with
        | zero => exact htaken
        | succ m =>
          rw [← hshift]
          exact hbefore m (by omega)
    · rintro ⟨rfl, hfree, hbefore⟩
      have hnext : Search taken name (numberedName name (k + 1)) (k + 1 + 2) rounds
          (numberedName name (k + (rounds + 1))) := by
        refine ih.mpr ⟨by rw [hshift], hfree, fun m hm => ?_⟩
        rw [hshift]
        exact hbefore (m + 1) (by omega)
      exact .again (hbefore 0 (by omega)) hnext

/-- There is one run of a search. -/
theorem search_iff_of_first_free {taken : Finset String} {name found : String} {n rounds : Nat}
    (hfree : numberedName name n ∉ taken) (hbefore : ∀ m < n, numberedName name m ∈ taken) :
    Search taken name name 2 rounds found ↔ rounds = n ∧ found = numberedName name n := by
  have hruns : Search taken name name 2 rounds found ↔ found = numberedName name (0 + rounds) ∧
      found ∉ taken ∧ ∀ m < rounds, numberedName name (0 + m) ∈ taken := search_iff (k := 0)
  simp only [Nat.zero_add] at hruns
  rw [hruns]
  constructor
  · rintro ⟨rfl, hfound, hmet⟩
    obtain hlt | rfl | hgt := Nat.lt_trichotomy rounds n
    · exact absurd (hbefore rounds hlt) hfound
    · exact ⟨rfl, rfl⟩
    · exact absurd (hmet n hgt) hfree
  · rintro ⟨rfl, rfl⟩
    exact ⟨rfl, hfree, hbefore⟩

/-- What the search for a name comes to: there is one run, which meets each taken name at most once
and ends with the first candidate that is free. -/
structure Finds (taken : List String) (name : String) (rounds : Nat) : Prop where
  ends : ∀ r found, Search taken.toFinset name name 2 r found ↔
    r = rounds ∧ found = freshName taken name
  candidate : freshName taken name = numberedName name rounds
  free : freshName taken name ∉ taken
  first : ∀ m < rounds, numberedName name m ∈ taken
  bounded : rounds ≤ taken.toFinset.card

theorem exists_finds (taken : List String) (name : String) : ∃ rounds, Finds taken name rounds := by
  obtain ⟨n, hfree, hbefore⟩ := exists_first_free taken.toFinset name
  have hfound : freshName taken name = numberedName name n :=
    freshName_eq (by simpa using hfree) (by simpa using hbefore)
  refine ⟨n, fun r found => ?_, hfound, freshName_not_mem taken name, by simpa using hbefore,
    le_card_of_forall_mem hbefore⟩
  rw [hfound]
  exact search_iff_of_first_free hfree hbefore

/-! ## Searches in turn -/

/-- A run of searches for `names` in turn, each of which adds what it found to the set of taken
names. -/
inductive Naming : Finset String → List String → List String → Finset String → Prop
  | done {taken : Finset String} : Naming taken [] [] taken
  | next {taken after : Finset String} {name found : String} {rounds : Nat}
      {names more : List String} (search : Search taken name name 2 rounds found)
      (rest : Naming (insert found taken) names more after) :
      Naming taken (name :: names) (found :: more) after

theorem naming_iff {taken names found : List String} {after : Finset String} :
    Naming taken.toFinset names found after ↔ found = freshNamesAfter taken names ∧
      after = taken.toFinset ∪ (freshNamesAfter taken names).toFinset := by
  induction names generalizing taken found with
  | nil =>
    constructor
    · intro h
      cases h with
      | done => exact ⟨rfl, by simp [freshNamesAfter]⟩
    · rintro ⟨rfl, rfl⟩
      simpa [freshNamesAfter] using Naming.done
  | cons name rest ih =>
    obtain ⟨rounds, hfinds⟩ := exists_finds taken name
    have hadded : insert (freshName taken name) taken.toFinset =
        (taken ++ [freshName taken name]).toFinset := by
      ext x
      simp [or_comm]
    have hafter : taken.toFinset ∪ (freshNamesAfter taken (name :: rest)).toFinset =
        (taken ++ [freshName taken name]).toFinset ∪
          (freshNamesAfter (taken ++ [freshName taken name]) rest).toFinset := by
      rw [freshNamesAfter, ← hadded, List.toFinset_cons, Finset.union_insert, Finset.insert_union]
    constructor
    · intro h
      cases h with
      | next search hrest =>
        obtain ⟨-, rfl⟩ := (hfinds.ends _ _).mp search
        rw [hadded] at hrest
        obtain ⟨rfl, rfl⟩ := ih.mp hrest
        exact ⟨rfl, hafter.symm⟩
    · rintro ⟨rfl, rfl⟩
      refine .next ((hfinds.ends _ _).mpr ⟨rfl, rfl⟩) ?_
      rw [hadded]
      exact ih.mpr ⟨rfl, hafter⟩

/-- What searches in turn come to: there is one run, which adds exactly the names found to the taken
ones; each name is sought among the taken ones and those found before it; and what is found for a
name is the name itself exactly where it is asked for first and is neither taken nor found for
another before. -/
structure NamedInTurn (taken names found : List String) : Prop where
  runs : ∀ results after, Naming taken.toFinset names results after ↔
    results = found ∧ after = taken.toFinset ∪ found.toFinset
  length : found.length = names.length
  sought : ∀ i name, names[i]? = some name →
    found[i]? = some (freshName (taken ++ found.take i) name)
  distinct : found.Nodup
  free : ∀ name ∈ found, name ∉ taken
  kept : ∀ i name, names[i]? = some name →
    (found[i]? = some name ↔ name ∉ taken ++ names.take i ++ found.take i)

theorem namedInTurn_freshNamesAfter (taken names : List String) :
    NamedInTurn taken names (freshNamesAfter taken names) where
  runs _ _ := naming_iff
  length := length_freshNamesAfter taken names
  sought i name h := by rw [getElem?_freshNamesAfter, h, Option.map_some]
  distinct := (freshNamesAfter_fresh taken names).1
  free := (freshNamesAfter_fresh taken names).2
  kept _ _ h := getElem?_freshNamesAfter_eq_iff h

/-- Whatever names are taken, the search for a name ends after finitely many rounds with the first
free candidate; and names sought in turn become different names, the taken ones being joined by
exactly these. -/
theorem names_in_turn (taken : List String) :
    (∀ name, ∃ rounds, Finds taken name rounds) ∧
      ∀ names, NamedInTurn taken names (freshNamesAfter taken names) :=
  ⟨exists_finds taken, namedInTurn_freshNamesAfter taken⟩

example : freshNames ["sales", "sales", "sales (2)"] = ["sales", "sales (2)", "sales (2) (2)"] := by
  decide

end ChartBoard.Widget
